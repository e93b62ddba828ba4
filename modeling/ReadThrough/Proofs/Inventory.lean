import ReadThrough.Proofs.Delivery
import ReadThrough.Proofs.Follows
import ReadThrough.Proofs.Trail

/-! What came in, what went out and what is there. Every entry comes in by a call of set under an absent key,
and leaves by one removal that counts it once, whether alone, with others, with all or pushed out; so the counts
of removals and the entries add up to the entries that came in. -/
namespace ReadThrough
open Relation
variable {τ : Type}

theorem Assoc.eraseSize {κ α : Type} [DecidableEq κ] {m : Assoc κ α} (distinct : m.Distinct) {key : κ} {value : α}
    (found : m.get? key = some value) : (m.erase key).size + 1 = m.size := by
  have length (m : Assoc κ α) : m.size = m.keys.length := (List.length_map _).symm
  have keys : (m.erase key).keys = m.keys.erase key := by
    rw [distinct.erase_eq_filter,erase,Assoc.keys,Assoc.keys,List.filter_map]
    congr 1
    exact List.filter_congr fun e _ => by simp [bne,beq_eq_decide]
  have listed : key ∈ m.keys := Assoc.memKeys.mpr ⟨value,found⟩
  rw [length,length,keys,List.length_erase_of_mem listed]
  have := List.length_pos_of_mem listed
  omega

theorem Assoc.putSize {κ α : Type} [DecidableEq κ] (m : Assoc κ α) (key : κ) (value : α) :
    (m.put key value).size = m.size + if m.has key then 0 else 1 := by
  have length (m : Assoc κ α) : m.size = m.keys.length := (List.length_map _).symm
  have listed : key ∈ m.keys ↔ m.has key = true := by
    rw [Assoc.memKeys,Assoc.has,Option.isSome_iff_exists]
  have keys : (m.put key value).keys = if key ∈ m.keys then m.keys else m.keys ++ [key] :=
    Assoc.placeKeys key value m.entries
  rw [length,length,keys]
  by_cases present : m.has key = true
  · rw [if_pos (listed.mpr present),if_pos present]
    rfl
  · rw [if_neg (mt listed.mp present),if_neg present,List.length_append]
    rfl

namespace Meter

def removals (m : Meter τ) : Int × Int × Int := (m.evictions,m.invalidations,m.size)

variable [Quantity τ]

theorem bareRemovals {m m' : Meter τ} (same : m'.bare = m.bare) : m'.removals = m.removals :=
  (congrArg removals same : m'.bare.removals = m.bare.removals)

theorem reportRemovals (e : Event) (m : Meter τ) : (report e m).2.removals = m.removals :=
  bareRemovals (reportBare e m)

theorem evictionRemovals (now : τ) (key : String) (m : Meter τ) :
    (recordEviction now key m).2.removals = (m.evictions + 1,m.invalidations,m.size) :=
  reportRemovals (.eviction key) { m with evictions := m.evictions + 1, evicted := m.evicted ++ [(now,1)] }

theorem invalidationRemovals (now : τ) (n : Nat) (reason : String) (m : Meter τ) :
    (recordInvalidation now n reason m).2.removals = (m.evictions,m.invalidations + n,m.size) := by
  unfold recordInvalidation
  split
  · rename_i none
    simp only [Op.pure_apply,removals,Prod.mk.injEq,true_and,and_true]
    omega
  · exact reportRemovals (.invalidation n reason)
      { m with invalidations := m.invalidations + n, removed := m.removed ++ [(now,(n : Int))] }

theorem sizeRemovals (n : Int) (m : Meter τ) :
    (setSize n m).2.removals = (m.evictions,m.invalidations,n) :=
  reportRemovals (.size n) { m with size := n }

structure RemovesNone (m m' : Meter τ) : Prop where
  removals : m'.removals = m.removals
  takes : ∀ most, m.sink.Takes most → m'.sink.Takes most

theorem reportRemovesNone (e : Event) {m m₁ : Meter τ} (removals : m₁.removals = m.removals)
    (sink : m₁.sink = m.sink) : RemovesNone m (report e m₁).2 := by
  refine ⟨(reportRemovals e m₁).trans removals,fun most takes => ?_⟩
  have bare : (report e m₁).2.sink.bare = m₁.sink.bare := congrArg (·.sink) (reportBare e m₁)
  rw [← Sink.takesBare,bare,sink]
  exact Sink.takesBare.mpr takes

theorem lookingRemovesNone : Looking (RemovesNone (τ := τ)) :=
  ⟨fun _ _ => reportRemovesNone _ rfl rfl,fun _ _ => reportRemovesNone _ rfl rfl,
    fun _ _ => reportRemovesNone _ rfl rfl⟩

theorem workingRemovesNone : Working (RemovesNone (τ := τ)) := by
  refine ⟨fun _ m => reportRemovesNone _ rfl rfl,fun key success m => ?_⟩
  cases success with
  | true => exact reportRemovesNone (.revalidation key true) rfl rfl
  | false => exact reportRemovesNone (.revalidation key false) rfl rfl

end Meter

namespace Store
variable [Quantity τ] {s s' : Store τ}

def Call.adds (k : Call τ) : Bool :=
  match set k.now k.raw k.data k.options k.store with
  | (.ok key, _) => !k.store.entries.has key
  | (.error _, _) => false

structure Houses (s : Store τ) : Prop where
  roomy : 0 < s.capacity
  distinct : s.entries.Distinct
  fits : s.entries.size ≤ s.capacity
  takes : s.meter.sink.Takes s.capacity

def Told (s : Store τ) : Prop := s.meter.size = s.entries.size

def cameIn (s : Store τ) : Int := s.meter.evictions + s.meter.invalidations + s.entries.size

structure Adds (n : Int) (s s' : Store τ) : Prop where
  houses : s'.Houses
  room : s'.capacity = s.capacity
  told : s.Told → s'.Told
  cameIn : s'.cameIn = s.cameIn + n

omit [Quantity τ] in
theorem Adds.trans {n n' sum : Int} {s₁ : Store τ} (first : Adds n s s₁) (second : Adds n' s₁ s')
    (added : n + n' = sum) : Adds sum s s' := by
  refine ⟨second.houses,second.room.trans first.room,fun told => second.told (first.told told),?_⟩
  rw [second.cameIn,first.cameIn,Int.add_assoc,added]

omit [Quantity τ] in
theorem Houses.still (houses : s.Houses) (capacity : s'.capacity = s.capacity) (entries : s'.entries = s.entries)
    (meter : s'.meter = s.meter) : Adds 0 s s' := by
  refine ⟨⟨?_,?_,?_,?_⟩,capacity,?_,?_⟩
  · exact capacity ▸ houses.roomy
  · exact entries ▸ houses.distinct
  · exact capacity ▸ entries ▸ houses.fits
  · exact capacity ▸ meter ▸ houses.takes
  · exact fun told => by rwa [Told,meter,entries]
  · rw [cameIn,cameIn,entries,meter,Int.add_zero]

omit [Quantity τ] in
theorem createHouses {capacity : Int} {ttlFor : String → τ} {gate : Gate} {limiter : Limiter τ} {meter : Meter τ}
    (made : create capacity ttlFor gate limiter meter = .ok s) (takes : meter.sink.Takes capacity.toNat) :
    s.Houses := by
  have roomy := createRoomy made
  obtain rfl := createOk made
  exact ⟨roomy,Assoc.emptyDistinct,Nat.zero_le _,takes⟩

/-! Counting that does not fail. -/

omit [Quantity τ] in
theorem meteredExact {most : Nat} {x : Op (Meter τ) Unit} (taken : Meter.Taken most x)
    (takes : s.meter.sink.Takes most) : metered x s = (.ok (),{ s with meter := (x s.meter).2 }) ∧
      (x s.meter).2.sink.Takes most := by
  obtain ⟨m,ran,still⟩ := taken s.meter takes
  rw [metered,Op.within,ran]
  exact ⟨rfl,still⟩

theorem countedAdds {s₁ : Store τ} (houses : s.Houses) (left : s₁.capacity = s.capacity ∧ s₁.meter = s.meter)
    (distinct : s₁.entries.Distinct) (fewer : s₁.entries.size ≤ s.entries.size) {x : Op (Meter τ) Unit}
    (taken : Meter.Taken s.capacity x) {evictions invalidations : Int}
    (removals : (x s.meter).2.removals = (evictions,invalidations,s.meter.size))
    (gone : evictions + invalidations + s₁.entries.size = s.cameIn) :
    ∃ m m', metered x s₁ = (.ok (),{ s₁ with meter := m }) ∧
      reportSize { s₁ with meter := m } = (.ok (),{ s₁ with meter := m' }) ∧ Adds 0 s { s₁ with meter := m' } := by
  obtain ⟨room,meter⟩ := left
  have fits : s₁.entries.size ≤ s.capacity := Nat.le_trans fewer houses.fits
  rw [← meter] at removals
  obtain ⟨noted,still⟩ := @meteredExact τ s₁ s.capacity x taken (meter ▸ houses.takes)
  generalize (x s₁.meter).2 = m at *
  obtain ⟨sized,last⟩ := @meteredExact τ { s₁ with meter := m } s.capacity _ (Meter.sizeTaken fits) still
  have counts := Meter.sizeRemovals (s₁.entries.size : Int) m
  refine ⟨m,_,noted,sized,?_⟩
  dsimp only at last ⊢
  generalize (Meter.setSize (s₁.entries.size : Int) m).2 = m' at *
  simp only [Meter.removals,Prod.mk.injEq] at removals counts
  obtain ⟨evicted,removed,size⟩ := counts
  refine ⟨⟨room ▸ houses.roomy,distinct,room ▸ fits,room ▸ last⟩,room,fun _ => size,?_⟩
  change m'.evictions + m'.invalidations + (s₁.entries.size : Int) = s.cameIn + 0
  omega

/-! Removals. -/

omit [Quantity τ] in
theorem removeAllSize (distinct : s.entries.Distinct) (keys : List String) :
    (s.removeAll keys).2.entries.size + (s.removeAll keys).1 = s.entries.size := by
  induction keys generalizing s with
  | nil => rfl
  | cons key rest ih =>
    have later := ih (removeDistinct distinct key)
    rw [removeEntries] at later
    simp only [removeAll]
    cases found : s.entries.get? key with
    | none =>
      have kept : s.remove key = (false,s) := by rw [remove,found]
      rw [kept]
      exact ih distinct
    | some e =>
      have gone : (s.remove key).1 = true := by rw [remove,found]
      have size := Assoc.eraseSize distinct found
      cases removed : s.remove key with
      | mk b s₁ =>
        rw [removed] at gone later
        cases gone
        dsimp only at later ⊢
        omega

omit [Quantity τ] in
theorem removeAllLeft (s : Store τ) (keys : List String) : (s.removeAll keys).2.terms = s.terms ∧
    (s.removeAll keys).2.limiter = s.limiter ∧ (s.removeAll keys).2.meter = s.meter := by
  induction keys generalizing s with
  | nil => exact ⟨rfl,rfl,rfl⟩
  | cons key rest ih =>
    obtain ⟨terms,limiter,meter⟩ := removeTerms (s := s) key
    have later := ih (s.remove key).2
    rw [terms,limiter,meter] at later
    rwa [removeAllCons]

theorem removeManyAdds (houses : s.Houses) (now : τ) (keys : List String) (reason : String) :
    Adds 0 s (removeMany now keys reason s).2 := by
  have size := removeAllSize houses.distinct keys
  obtain ⟨terms,-,meter⟩ := removeAllLeft s keys
  have left : (s.removeAll keys).2.capacity = s.capacity ∧ (s.removeAll keys).2.meter = s.meter :=
    ⟨congrArg Terms.capacity terms,meter⟩
  have distinct := chainDistinct (removeAllChain s keys) houses.distinct
  have swept : Op.step (·.removeAll keys) s = (.ok (s.removeAll keys).1,(s.removeAll keys).2) := rfl
  rw [removeMany,Op.bind_ok swept]
  obtain ⟨m,m',noted,sized,adds⟩ := countedAdds houses left distinct (by omega)
    (Meter.invalidationTaken now (s.removeAll keys).1 reason) (Meter.invalidationRemovals now _ reason _)
    (by unfold cameIn; omega)
  split
  · rw [Op.bind_ok noted,Op.bind_ok sized]
    exact adds
  · rename_i none
    change Adds 0 s (s.removeAll keys).2
    refine ⟨⟨left.1 ▸ houses.roomy,distinct,?_,?_⟩,left.1,fun told => ?_,?_⟩
    · exact left.1 ▸ Nat.le_trans (by omega) houses.fits
    · exact left.1 ▸ left.2 ▸ houses.takes
    · rw [Told] at *
      rw [left.2]
      omega
    · unfold cameIn
      rw [left.2]
      omega

theorem clearAdds (houses : s.Houses) (now : τ) : Adds 0 s (clear now s).2 := by
  have gone : s.meter.evictions + (s.meter.invalidations + (s.entries.size : Int)) + ((0 : Nat) : Int) = s.cameIn := by
    unfold cameIn
    omega
  obtain ⟨m,m',noted,sized,adds⟩ := @countedAdds τ _ s { s with entries := .empty, tagged := .empty } houses ⟨rfl,rfl⟩
    Assoc.emptyDistinct (Nat.zero_le _) _ (Meter.invalidationTaken now s.entries.size "clear") _ _
    (Meter.invalidationRemovals now _ "clear" _) gone
  have cleared : (clear now s).2 = { s with entries := .empty, tagged := .empty, meter := m' } := by
    rw [clear,Op.bind_ok (show Op.read s = (.ok s,s) from rfl),
      Op.bind_ok (show Op.change _ s = (.ok (),_) from rfl),Op.bind_ok noted]
    have sized : metered (Meter.setSize ((Assoc.empty : Assoc String (Entry τ)).size : Int))
        { s with entries := .empty, tagged := .empty, meter := m } =
      (.ok (),{ s with entries := .empty, tagged := .empty, meter := m' }) := sized
    have none : ((Assoc.empty : Assoc String (Entry τ)).size : Int) = 0 := rfl
    rw [none] at sized
    rw [Op.bind_ok sized]
    rfl
  rw [cleared]
  exact adds

theorem evictAdds (houses : s.Houses) (now : τ) : ∃ gone s', evict now s = (.ok gone,s') ∧ Adds 0 s s' ∧
    (∀ key, s.entries.get? key = none → s'.entries.get? key = none) ∧
    (s.entries.size ≠ 0 → s'.entries.size < s.entries.size) := by
  unfold evict
  rw [Op.bind_ok (show Op.read s = (.ok s,s) from rfl)]
  cases first : oldest s.entries.entries with
  | none =>
    refine ⟨none,s,rfl,houses.still rfl rfl rfl,fun _ absent => absent,fun filled => ?_⟩
    cases held : s.entries.entries with
    | nil => exact absurd (congrArg List.length held) filled
    | cons e rest => rw [held] at first; cases first
  | some victim =>
    obtain ⟨key,e⟩ := victim
    have found : s.entries.get? key = some e := Assoc.memGet houses.distinct (oldestMem first)
    obtain ⟨terms,-,meter⟩ := removeTerms (s := s) key
    have capacity : (s.remove key).2.capacity = s.capacity := congrArg Terms.capacity terms
    have size := Assoc.eraseSize houses.distinct found
    rw [← removeEntries] at size
    obtain ⟨m,m',noted,sized,adds⟩ := countedAdds houses ⟨capacity,meter⟩ (removeDistinct houses.distinct key)
      (by omega) (Meter.evictionTaken now key) (Meter.evictionRemovals now key s.meter) (by unfold cameIn; omega)
    have removed : Op.step (·.remove key) s = (.ok (s.remove key).1,(s.remove key).2) := rfl
    dsimp only
    rw [Op.bind_ok removed,Op.bind_ok noted,Op.bind_ok sized]
    refine ⟨some key,_,rfl,adds,fun k absent => ?_,fun _ => ?_⟩
    · change (s.remove key).2.entries.get? k = none
      rw [removeGet,absent,ite_self]
    · change (s.remove key).2.entries.size < _
      omega

/-! Calls of set. -/

theorem makeRoomAdds (houses : s.Houses) (now : τ) (key : String) : ∃ s', makeRoom now key s = (.ok (),s') ∧
    Adds 0 s s' ∧ s'.entries.has key = s.entries.has key ∧
    (s.entries.has key = true ∨ s'.entries.size < s'.capacity) := by
  unfold makeRoom
  rw [Op.bind_ok (show Op.read s = (.ok s,s) from rfl)]
  split
  · rename_i crowded
    obtain ⟨absent,full⟩ := Bool.and_eq_true_iff.mp crowded
    have full : s.capacity ≤ s.entries.size := of_decide_eq_true full
    have roomy := houses.roomy
    obtain ⟨gone,s',ran,adds,keeps,smaller⟩ := evictAdds houses now
    have none : s.entries.get? key = none := by simpa [Assoc.has] using absent
    refine ⟨s',by rw [Op.bind_ok ran]; rfl,adds,?_,.inr ?_⟩
    · rw [Assoc.has,Assoc.has,none,keeps key none]
    · rw [adds.room]
      exact Nat.lt_of_lt_of_le (smaller (by omega)) houses.fits
  · rename_i free
    refine ⟨s,rfl,houses.still rfl rfl rfl,rfl,?_⟩
    cases present : s.entries.has key with
    | true => exact .inl rfl
    | false => exact .inr (Nat.lt_of_not_le fun full => free (by simp [present,full]))

theorem insertAdds (houses : s.Houses) (key : String) (room : s.entries.has key = true ∨ s.entries.size < s.capacity)
    (e : Entry τ) : ∃ m, reportSize ((s.forgotten key).insert key e) =
        (.ok (),{ (s.forgotten key).insert key e with meter := m }) ∧
      Adds (if s.entries.has key then 0 else 1) s { (s.forgotten key).insert key e with meter := m } := by
  obtain ⟨terms,-,meter⟩ := forgottenTerms (s := s) key
  have capacity : (s.forgotten key).capacity = s.capacity := congrArg Terms.capacity terms
  have entries : ((s.forgotten key).insert key e).entries = s.entries.put key e := by rw [insert,forgottenEntries]
  have size := Assoc.putSize s.entries key e
  have fits : ((s.forgotten key).insert key e).entries.size ≤ s.capacity := by
    rw [entries,size]
    have before := houses.fits
    split
    · exact before
    · exact room.resolve_left (by assumption)
  have takes : ((s.forgotten key).insert key e).meter.sink.Takes s.capacity := meter ▸ houses.takes
  obtain ⟨ran,last⟩ := meteredExact (Meter.sizeTaken fits) takes
  have counts := Meter.sizeRemovals ((s.forgotten key).insert key e).entries.size (s.forgotten key).meter
  refine ⟨_,ran,?_⟩
  have written : ((s.forgotten key).insert key e).meter = (s.forgotten key).meter := rfl
  rw [written] at last ⊢
  generalize (Meter.setSize _ (s.forgotten key).meter).2 = m at *
  rw [meter] at counts
  simp only [Meter.removals,Prod.mk.injEq] at counts
  obtain ⟨evicted,removed,told⟩ := counts
  refine ⟨⟨?_,?_,?_,?_⟩,capacity,fun _ => told,?_⟩
  · change 0 < (s.forgotten key).capacity
    exact capacity ▸ houses.roomy
  · change ((s.forgotten key).insert key e).entries.Distinct
    rw [entries]
    exact Assoc.putDistinct houses.distinct key e
  · change _ ≤ (s.forgotten key).capacity
    exact capacity ▸ fits
  · change m.sink.Takes (s.forgotten key).capacity
    exact capacity ▸ last
  · change m.evictions + m.invalidations + (((s.forgotten key).insert key e).entries.size : Int) = _
    rw [evicted,removed,entries,size,cameIn]
    split <;> omega

theorem landAdds (houses : s.Houses) (now : τ) (key : String) (ttl : τ) (data : Value) (o : Options τ) :
    (∃ f, (land now key ttl data o s).1 = .error f ∧ Adds 0 s (land now key ttl data o s).2) ∨
      (land now key ttl data o s).1 = .ok key ∧
        Adds (if s.entries.has key then 0 else 1) s (land now key ttl data o s).2 := by
  obtain ⟨s₁,room,adds,has,free⟩ := makeRoomAdds houses now key
  have freed : forgetTags key s₁ = (.ok (),s₁.forgotten key) := rfl
  rw [← has] at free ⊢
  rw [land,Op.bind_ok room,Op.bind_ok freed]
  cases o.tags with
  | error why =>
    obtain ⟨terms,-,meter⟩ := forgottenTerms (s := s₁) key
    have still := adds.houses.still (congrArg Terms.capacity terms) (forgottenEntries s₁ key) meter
    exact .inl ⟨_,rfl,adds.trans still rfl⟩
  | ok tags =>
    obtain ⟨m,sized,more⟩ := insertAdds adds.houses key free ⟨data,now,ttl,tags,o.version,o.etag⟩
    refine .inr ?_
    rw [Op.bind_ok (show Op.liftFailure (.ok tags) (s₁.forgotten key) = (.ok tags,s₁.forgotten key) from rfl),
      Op.bind_ok (show Op.change _ (s₁.forgotten key) = (.ok (),_) from rfl),Op.bind_ok sized]
    exact ⟨rfl,adds.trans more (Int.zero_add _)⟩

theorem setAdds (houses : s.Houses) (now : τ) (raw data : Value) (o : Options τ) :
    Adds (if Call.adds ⟨s,now,raw,data,o⟩ then 1 else 0) s (set now raw data o s).2 := by
  have limited (l : Limiter τ) : Adds 0 s { s with limiter := l } := houses.still rfl rfl rfl
  rcases setCases now raw data o s with ⟨f,l,refused⟩ | ⟨key,l,lands⟩
  · have fails : Call.adds ⟨s,now,raw,data,o⟩ = false := by rw [Call.adds,refused]
    rw [fails,refused]
    exact limited l
  · rcases landAdds (limited l).houses now key (o.ttl.getD (s.ttlFor key)) data o with
      ⟨f,failed,adds⟩ | ⟨written,adds⟩ <;>
      rcases ran : land now key (o.ttl.getD (s.ttlFor key)) data o { s with limiter := l } with ⟨result,s'⟩ <;>
      rw [ran] at adds
    · rw [ran] at failed
      cases failed
      have fails : Call.adds ⟨s,now,raw,data,o⟩ = false := by rw [Call.adds,lands,ran]
      rw [fails,lands,ran]
      exact (limited l).trans adds rfl
    · rw [ran] at written
      cases written
      have succeeds : Call.adds ⟨s,now,raw,data,o⟩ = !s.entries.has key := by rw [Call.adds,lands,ran]
      rw [succeeds,lands,ran]
      refine (limited l).trans adds ?_
      cases s.entries.has key <;> rfl

theorem deedAdds (houses : s.Houses) (done : Deed Meter.RemovesNone s s') : Adds 0 s s' := by
  cases done with
  | limited l => exact houses.still rfl rfl rfl
  | noted none =>
    have removals := none.removals
    simp only [Meter.removals,Prod.mk.injEq] at removals
    obtain ⟨evicted,removed,size⟩ := removals
    refine ⟨⟨houses.roomy,houses.distinct,houses.fits,none.takes _ houses.takes⟩,rfl,size.trans,?_⟩
    rw [cameIn,cameIn,evicted,removed,Int.add_zero]
  | removed now keys reason => exact removeManyAdds houses now keys reason
  | cleared now => exact clearAdds houses now
  | evicted now =>
    obtain ⟨gone,s',ran,adds,-⟩ := evictAdds houses now
    rwa [ran]

theorem deedHouses {r : Meter τ → Meter τ → Prop} (houses : s.Houses)
    (takes : ∀ m, r s.meter m → m.sink.Takes s.capacity) (done : Deed r s s') :
    s'.Houses ∧ s'.capacity = s.capacity := by
  have kept {s' : Store τ} (done : Deed Meter.RemovesNone s s') : s'.Houses ∧ s'.capacity = s.capacity :=
    have adds := deedAdds houses done
    ⟨adds.houses,adds.room⟩
  cases done with
  | limited l => exact kept (.limited l)
  | noted noted => exact ⟨⟨houses.roomy,houses.distinct,houses.fits,takes _ noted⟩,rfl⟩
  | removed now keys reason => exact kept (.removed now keys reason)
  | cleared now => exact kept (.cleared now)
  | evicted now => exact kept (.evicted now)

theorem trailAdds {calls : List (Call τ)} (houses : s.Houses) (trail : Trail Meter.RemovesNone s calls s') :
    Adds (calls.countP Call.adds) s s' := by
  induction trail with
  | start => exact houses.still rfl rfl rfl
  | deed _ done ih => exact ih.trans (deedAdds ih.houses done) (Int.add_zero _)
  | @call calls s₁ _ now raw data o ih =>
    refine ih.trans (setAdds ih.houses now raw data o) ?_
    rw [List.countP_append,List.countP_singleton]
    split <;> rfl

end Store

namespace Coordinator
variable [Quantity τ]

/-- In every run of a new store whose sink takes what it is told, as many entries came in as were evicted and
invalidated and are there, and the size that was told last is their number. -/
theorem entriesBalance {capacity : Int} {ttlFor : String → τ} {gate : Gate} {limiter : Limiter τ} {meter : Meter τ}
    {store : Store τ} (made : Store.create capacity ttlFor gate limiter meter = .ok store)
    (fresh : meter.removals = (0,0,0)) (takes : meter.sink.Takes capacity.toNat) {c : Coordinator τ}
    (holds : c.store = store) {run : List (τ × Use τ)} (within : ∀ m ∈ run, m.2.Within Meter.RemovesNone) :
    let s := (c.used run).store
    ((c.runCalls run).countP Store.Call.adds : Int) = s.meter.evictions + s.meter.invalidations + s.entries.size ∧
      s.meter.size = s.entries.size := by
  intro s
  have trail := usedTrail Meter.workingRemovesNone Meter.lookingRemovesNone c within
  rw [holds] at trail
  obtain ⟨-,-,told,balance⟩ := Store.trailAdds (Store.createHouses made takes) trail
  obtain rfl := Store.createOk made
  simp only [Meter.removals,Prod.mk.injEq] at fresh
  obtain ⟨evicted,removed,size⟩ := fresh
  have none : Store.cameIn ⟨capacity.toNat,ttlFor,gate,limiter,meter,.empty,.empty⟩ = 0 := by
    rw [Store.cameIn,evicted,removed]
    rfl
  rw [none,Int.zero_add] at balance
  exact ⟨balance.symm,told size⟩

def narrowCache : Coordinator Number :=
  create Store.narrowStore ⟨1,.whole 60,.whole 10,.whole 40⟩
    ⟨⟨0,.whole 0,.whole 0,.whole 0,none⟩,none,fun low _ => low⟩ true false

def busyDay : List (Number × Use Number) := [
  (.whole 1000,.errand (.set (.str "a b") (.int 1) (.none Number))),
  (.whole 1001,.step (.set (.str "a_b") (.int 2) (.none Number))),
  (.whole 1002,.step (.fetch "u" (.str "k") openRequest)),(.whole 1002,.step (.begin 0)),
  (.whole 1003,.step (.advance 0 (.returned (.int 3)))),
  (.whole 1100,.step (.fetch "u" (.str "k") openRequest)),(.whole 1100,.step (.begin 1)),
  (.whole 1101,.step (.advance 1 (.returned (.int 4)))),
  (.whole 1102,.step (.mutatedKeys (· == "k"))),(.whole 1103,.errand (.sweepKeys fun _ => true)),
  (.whole 1104,.errand (.setBatch [⟨some (.str "c"),some (.int 5),.none Number⟩,⟨none,none,.none Number⟩]))]

theorem busyBalance :
    let s := (narrowCache.used busyDay).store
    Store.create 1 (fun _ => .whole 60) ⟨[],8,100⟩ (.create 0 (.whole 60)) Store.narrowStore.meter =
        .ok Store.narrowStore ∧
      Store.narrowStore.meter.removals = (0,0,0) ∧ Store.narrowStore.meter.sink.Takes 1 ∧
      (∀ m ∈ busyDay, m.2.Within Meter.RemovesNone) ∧ (narrowCache.runCalls busyDay).length = 5 ∧
      (narrowCache.runCalls busyDay).countP Store.Call.adds = 3 ∧ s.meter.removals = (1,1,1) ∧
      ((narrowCache.runCalls busyDay).countP Store.Call.adds : Int) =
        s.meter.evictions + s.meter.invalidations + s.entries.size ∧
      s.meter.size = s.entries.size := by
  have within : ∀ m ∈ busyDay, m.2.Within Meter.RemovesNone := by simp [busyDay,Use.Within]
  have made : Store.create 1 (fun _ => .whole 60) ⟨[],8,100⟩ (.create 0 (.whole 60)) Store.narrowStore.meter =
      .ok Store.narrowStore := rfl
  have holds : narrowCache.store = Store.narrowStore := rfl
  have balance := entriesBalance made rfl trivial holds within
  exact ⟨made,rfl,trivial,within,by decide +kernel,by decide +kernel,by decide +kernel,balance⟩

end Coordinator

end ReadThrough
