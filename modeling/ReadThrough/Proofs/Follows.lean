import ReadThrough.Proofs.History
import ReadThrough.Proofs.Reports

/-! A store follows its history: where nothing limits the accesses and the sink takes the counts, every removal
and every write does to the store exactly its pieces. -/
namespace ReadThrough
variable {τ : Type} [Quantity τ]

/-! Counts that a sink takes. -/

namespace Exposition

theorem reportLookup (x : Exposition τ) {e : Event} (counted : e.name ∈ lookupNames)
    (still : e.field? "size" = none) : (x.report e).1 = .ok () := by
  rw [report,if_pos counted]
  simp only [still]

theorem reportRemoval (x : Exposition τ) (count : Nat) (reason : String) :
    (x.report (.invalidation count reason)).1 = .ok () := by
  have named : (Event.invalidation count reason).name = "invalidation" := rfl
  have amount : (Event.invalidation count reason).field? "count" = some (.int count) := rfl
  have still : (Event.invalidation count reason).field? "size" = none := rfl
  rw [report,named,if_neg (show "invalidation" ∉ lookupNames by decide),
    if_neg (show "invalidation" ≠ "size" by decide)]
  simp only [amount,Option.getD_some,x.countWhole "invalidation" (Int.natCast_nonneg count),still]

end Exposition

namespace Meter
variable {most : Nat}

def Taken (most : Nat) (x : Op (Meter τ) Unit) : Prop :=
  ∀ m, m.sink.Takes most → ∃ m', x m = (.ok (),m') ∧ m'.sink.Takes most

theorem countTaken {f : Meter τ → Meter τ} {e : Event} (same : ∀ m, (f m).sink = m.sink)
    (passes : ∀ x : Exposition τ, (x.report e).1 = .ok ()) :
    Taken most (Op.change f >>= fun _ => report e) := by
  intro m takes
  rw [Op.bind_ok (show Op.change f m = (.ok (),f m) from rfl)]
  rw [← same m] at takes
  generalize f m = m' at takes
  cases kind : m'.sink with
  | journal => exact ⟨m'.note e,by simp only [report,kind],by rw [note,kind]; trivial⟩
  | silent => exact ⟨m',by simp only [report,kind],takes⟩
  | refusing => rw [kind] at takes; exact takes.elim
  | exposition x =>
    rw [kind] at takes
    rw [reportExposed e kind,passes x]
    exact ⟨_,rfl,takes⟩

theorem hitTaken (key : String) : Taken most (recordHit (τ := τ) key) :=
  countTaken (fun _ => rfl) fun x =>
    x.reportLookup (show "hit" ∈ Exposition.lookupNames by decide) rfl

theorem staleHitTaken (key : String) : Taken most (recordStaleHit (τ := τ) key) :=
  countTaken (fun _ => rfl) fun x =>
    x.reportLookup (show "stale_hit" ∈ Exposition.lookupNames by decide) rfl

theorem missTaken (key : String) : Taken most (recordMiss (τ := τ) key) :=
  countTaken (fun _ => rfl) fun x =>
    x.reportLookup (show "miss" ∈ Exposition.lookupNames by decide) rfl

theorem evictionTaken (now : τ) (key : String) : Taken most (recordEviction now key) :=
  countTaken (fun _ => rfl) fun x => x.reportPlain
    (show "eviction" ∉ Exposition.lookupNames by decide) (show "eviction" ≠ "size" by decide) rfl rfl

theorem invalidationTaken (now : τ) (count : Nat) (reason : String) :
    Taken most (recordInvalidation now count reason) := by
  unfold recordInvalidation
  split
  · exact fun m takes => ⟨m,rfl,takes⟩
  · exact countTaken (fun _ => rfl) fun x => x.reportRemoval count reason

theorem sizeTaken {n : Nat} (fits : n ≤ most) : Taken most (setSize (τ := τ) n) :=
  fun m takes => @reportTakes τ _ most { m with size := n } takes _ (.size fits)

end Meter

namespace Store
variable {most : Nat} {s : Store τ}

omit [Quantity τ] in
theorem meteredTaken {x : Op (Meter τ) Unit} (taken : Meter.Taken most x) (takes : s.meter.sink.Takes most) :
    ∃ m, metered x s = (.ok (),{ s with meter := m }) ∧ m.sink.Takes most := by
  obtain ⟨m,told,still⟩ := taken s.meter takes
  exact ⟨m,by rw [metered,Op.within,told],still⟩

omit [Quantity τ] in
theorem meteredTakenThen {α : Type} {x : Op (Meter τ) Unit} (taken : Meter.Taken most x)
    (takes : s.meter.sink.Takes most) (a : α) :
    ∃ m, (metered x >>= fun _ => pure a) s = (.ok a,{ s with meter := m }) ∧ m.sink.Takes most := by
  obtain ⟨m,told,still⟩ := meteredTaken taken takes
  exact ⟨m,by rw [Op.bind_ok told]; rfl,still⟩

theorem accountTaken {α : Type} {removed : Prop} [Decidable removed] {x : Op (Meter τ) Unit}
    (taken : Meter.Taken most x) (takes : s.meter.sink.Takes most) (fits : s.entries.size ≤ most) (a : α) :
    ∃ m, (do
      if removed then
        metered x
        reportSize
      pure a : Op (Store τ) α) s = (.ok a,{ s with meter := m }) ∧ m.sink.Takes most := by
  split
  · obtain ⟨m,told,still⟩ := meteredTaken taken takes
    obtain ⟨m',sized,last⟩ := @reportSizeTakes τ _ most { s with meter := m } still fits
    exact ⟨m',by rw [Op.bind_ok told,Op.bind_ok sized]; rfl,last⟩
  · exact ⟨s.meter,rfl,takes⟩

theorem deleteTaken (now : τ) {raw : Value} {key : String} (admitted : s.gate.admitKey raw = .ok key)
    (takes : s.meter.sink.Takes most) (fits : s.entries.size ≤ most) :
    ∃ m, delete now raw s = (.ok (s.remove key).1,{ (s.remove key).2 with meter := m }) ∧ m.sink.Takes most := by
  rw [← removeMeter (s := s) key] at takes
  obtain ⟨m,told,still⟩ := @accountTaken τ _ most (s.remove key).2 Bool ((s.remove key).1 = true) _ _
    (Meter.invalidationTaken now 1 "delete") takes (Nat.le_trans (removeSize key) fits) (s.remove key).1
  refine ⟨m,?_,still⟩
  rw [delete,Op.bind_ok (admitKeyPasses admitted)]
  exact told

/-! A store that follows a history. -/

omit [Quantity τ] in
def terms (s : Store τ) : Terms τ := ⟨s.capacity,s.ttlFor,s.gate⟩

structure Follows (t : Terms τ) (past : List (Piece τ)) (s : Store τ) : Prop where
  terms : s.terms = t
  roomy : 0 < t.capacity
  unlimited : s.limiter.ceiling ≤ 0
  takes : s.meter.sink.Takes t.capacity
  fits : s.entries.size ≤ t.capacity
  distinct : s.entries.Distinct
  entries : s.entries = present past
  labels : ∀ tag key, key ∈ s.keysForTag tag ↔ ∃ e, lastLabel past key = some e ∧ tag ∈ e.tags

variable {t : Terms τ} {past : List (Piece τ)}

omit [Quantity τ] in
theorem Follows.get (follows : Follows t past s) (key : String) :
    s.entries.get? key = lastWrite past key := by
  rw [follows.entries,presentGet]

omit [Quantity τ] in
theorem Follows.counted (follows : Follows t past s) {m : Meter τ} (takes : m.sink.Takes t.capacity) :
    Follows t past { s with meter := m } := { follows with takes }

omit [Quantity τ] in
theorem Follows.forgottenLabels (follows : Follows t past s) (key : String) (tag : Tag) (k : String) :
    k ∈ (s.forgotten key).keysForTag tag ↔ k ∈ s.keysForTag tag ∧ k ≠ key := by
  rw [forgottenKeys]
  refine and_congr_right fun listed => ?_
  constructor
  · rintro free rfl
    obtain ⟨e,known,carried⟩ := (follows.labels tag k).mp listed
    exact free ⟨rfl,e,(follows.get k).trans (labelWrites known),carried⟩
  · rintro other ⟨same,-⟩
    exact other same

omit [Quantity τ] in
theorem removeEntries (key : String) : (s.remove key).2.entries = s.entries.erase key := by
  unfold remove
  cases found : s.entries.get? key with
  | some e => rfl
  | none =>
    have all : s.entries.entries.filter (fun e => e.1 ≠ key) = s.entries.entries := by
      refine List.filter_eq_self.mpr fun e mem => decide_eq_true fun same => ?_
      obtain ⟨value,held⟩ := Assoc.memKeys.mp (List.mem_map.mpr ⟨e,mem,same⟩)
      cases found.symm.trans held
    rw [Assoc.erase,all]

omit [Quantity τ] in
theorem removeTerms (key : String) : (s.remove key).2.terms = s.terms ∧
    (s.remove key).2.limiter = s.limiter ∧ (s.remove key).2.meter = s.meter := by
  unfold remove
  split <;> exact ⟨rfl,rfl,rfl⟩

omit [Quantity τ] in
theorem forgottenTerms (key : String) : (s.forgotten key).terms = s.terms ∧
    (s.forgotten key).limiter = s.limiter ∧ (s.forgotten key).meter = s.meter := by
  unfold forgotten
  split <;> exact ⟨rfl,rfl,rfl⟩

omit [Quantity τ] in
theorem Follows.removed (follows : Follows t past s) (key : String) :
    Follows t (past ++ [.removed key]) (s.remove key).2 := by
  obtain ⟨terms,limiter,meter⟩ := removeTerms (s := s) key
  refine ⟨terms.trans follows.terms,follows.roomy,limiter ▸ follows.unlimited,meter ▸ follows.takes,
    Nat.le_trans (removeSize key) follows.fits,removeDistinct follows.distinct key,?_,fun tag k => ?_⟩
  · rw [removeEntries,follows.entries,presentAppend]
    rfl
  · have listed : k ∈ (s.remove key).2.keysForTag tag ↔ k ∈ (s.forgotten key).keysForTag tag := by
      simp only [keysForTag,removeKeys]
    rw [listed,follows.forgottenLabels,follows.labels,lastLabelAppend]
    by_cases same : key = k
    · simp [Piece.touches,Piece.affects,Piece.entry?,same]
    · simp [Piece.touches,Piece.affects,same,Ne.symm same]

omit [Quantity τ] in
theorem Follows.emptied (follows : Follows t past s) :
    Follows t (past ++ [.emptied]) { s with entries := .empty, tagged := .empty } := by
  refine ⟨follows.terms,follows.roomy,follows.unlimited,follows.takes,Nat.zero_le _,Assoc.emptyDistinct,?_,
    fun tag k => ?_⟩
  · rw [presentAppend]
    rfl
  · rw [lastLabelAppend]
    simp [keysForTag,Piece.touches,Piece.affects,Piece.entry?]

omit [Quantity τ] in
theorem Follows.unlabelled (follows : Follows t past s) (key : String) :
    Follows t (past ++ [.unlabelled key]) (s.forgotten key) := by
  obtain ⟨terms,limiter,meter⟩ := forgottenTerms (s := s) key
  refine ⟨terms.trans follows.terms,follows.roomy,limiter ▸ follows.unlimited,meter ▸ follows.takes,?_,?_,?_,
    fun tag k => ?_⟩
  · exact forgottenEntries s key ▸ follows.fits
  · exact forgottenEntries s key ▸ follows.distinct
  · rw [forgottenEntries,follows.entries,presentAppend]
    rfl
  · rw [follows.forgottenLabels,follows.labels,lastLabelAppend]
    by_cases same : key = k
    · simp [Piece.touches,Piece.entry?,same]
    · simp [Piece.touches,same,Ne.symm same]

omit [Quantity τ] in
theorem insertKeys (key : String) (e : Entry τ) : (s.insert key e).entries.keys =
    if key ∈ s.entries.keys then s.entries.keys else s.entries.keys ++ [key] :=
  Assoc.placeKeys key e s.entries.entries

omit [Quantity τ] in
theorem Follows.written (follows : Follows t past s) {key : String}
    (room : lastWrite past key ≠ none ∨ s.entries.size < t.capacity) (e : Entry τ) :
    Follows t (past ++ [.written key e]) ((s.forgotten key).insert key e) := by
  obtain ⟨terms,limiter,meter⟩ := forgottenTerms (s := s) key
  refine ⟨terms.trans follows.terms,follows.roomy,limiter ▸ follows.unlimited,meter ▸ follows.takes,?_,?_,?_,
    fun tag k => ?_⟩
  · have keys := congrArg List.length (insertKeys (s := s.forgotten key) key e)
    rw [forgottenEntries] at keys
    have length (m : Assoc String (Entry τ)) : m.keys.length = m.size := List.length_map _
    rw [length] at keys
    rw [keys]
    split
    · exact length _ ▸ follows.fits
    · rename_i absent
      rcases room with held | free
      · obtain ⟨e',held⟩ := Option.ne_none_iff_exists'.mp held
        exact absurd (Assoc.memKeys.mpr ⟨e',(follows.get key).trans held⟩) absent
      · rw [List.length_append,length]
        exact free
  · rw [insert,forgottenEntries]
    exact Assoc.putDistinct follows.distinct key e
  · rw [insert,forgottenEntries,follows.entries,presentAppend]
    rfl
  · have listed : k ∈ ((s.forgotten key).insert key e).keysForTag tag ↔
        k ∈ (s.forgotten key).keysForTag tag ∨ k = key ∧ tag ∈ e.tags :=
      addTagsKeys key (s.forgotten key).tagged e.tags tag k
    rw [listed,follows.forgottenLabels,follows.labels,lastLabelAppend]
    by_cases same : key = k
    · simp [Piece.touches,Piece.affects,Piece.entry?,same]
    · simp [Piece.touches,Piece.affects,same,Ne.symm same]

/-! Removals. -/

omit [Quantity τ] in
theorem Follows.removedAll (follows : Follows t past s) (keys : List String) :
    Follows t (past ++ keys.map .removed) (s.removeAll keys).2 := by
  induction keys generalizing past s with
  | nil => simpa [removeAll] using follows
  | cons key rest ih =>
    rw [removeAllCons,List.map_cons,List.append_cons]
    exact ih (follows.removed key)

omit [Quantity τ] in
theorem Follows.swap {keys keys' : List String} (follows : Follows t (past ++ keys.map .removed) s)
    (same : ∀ key, lastWrite past key ≠ none → (key ∈ keys ↔ key ∈ keys')) :
    Follows t (past ++ keys'.map .removed) s := by
  refine { follows with entries := ?_, labels := fun tag k => ?_ }
  · rw [follows.entries,presentRemoved,presentRemoved]
    congr 1
    refine List.filter_congr fun e mem => ?_
    obtain ⟨value,held⟩ := Assoc.memKeys.mp (List.mem_map.mpr ⟨e,mem,rfl⟩)
    rw [presentGet] at held
    simp only [same e.1 (by simp [held])]
  · rw [follows.labels,lastLabelRemoved,lastLabelRemoved]
    cases known : lastLabel past k with
    | none => simp
    | some e => simp only [same k (by simp [labelWrites known])]

theorem Follows.removeMany (follows : Follows t past s) (now : τ) (keys : List String) (reason : String) :
    Follows t (past ++ keys.map .removed) (Store.removeMany now keys reason s).2 := by
  have gone := follows.removedAll keys
  obtain ⟨m,told,takes⟩ := @accountTaken τ _ t.capacity (s.removeAll keys).2 Nat
    (0 < (s.removeAll keys).1) _ _ (Meter.invalidationTaken now (s.removeAll keys).1 reason) gone.takes
    gone.fits (s.removeAll keys).1
  have ran : Store.removeMany now keys reason s =
      (.ok (s.removeAll keys).1,{ (s.removeAll keys).2 with meter := m }) := told
  rw [ran]
  exact gone.counted takes

theorem Follows.sweeps (follows : Follows t past s) (now : τ) {keys : List String} (reason : String)
    {hit : String → Bool} (hits : ∀ key, lastWrite past key ≠ none → (key ∈ keys ↔ hit key = true)) :
    Follows t (past ++ swept past hit) (Store.removeMany now keys reason s).2 := by
  refine (follows.removeMany now keys reason).swap fun key held => ?_
  obtain ⟨e,held⟩ := Option.ne_none_iff_exists'.mp held
  have stored : key ∈ (present past).keys := Assoc.memKeys.mpr ⟨e,(presentGet past key).trans held⟩
  rw [hits key (by simp [held]),List.mem_filter]
  exact ⟨fun hit => ⟨stored,hit⟩,fun h => h.2⟩

omit [Quantity τ] in
theorem Follows.carried (follows : Follows t past s) (tags : List Tag) (key : String) :
    (∃ tag ∈ tags, key ∈ s.keysForTag tag) ↔ carries past tags key = true := by
  simp only [follows.labels,carries,Option.any_eq_true,List.any_eq_true,decide_eq_true_eq]
  exact ⟨fun ⟨tag,named,e,known,carried⟩ => ⟨e,known,tag,named,carried⟩,
    fun ⟨e,known,tag,named,carried⟩ => ⟨tag,named,e,known,carried⟩⟩

theorem Follows.deletes (follows : Follows t past s) (now : τ) (raw : Value) :
    Store.delete now raw s = ((t.asked raw).map fun key => (lastWrite past key).isSome,
        (Store.delete now raw s).2) ∧
      Follows t (past ++ t.drop [raw]) (Store.delete now raw s).2 := by
  have gate : s.gate = t.gate := congrArg Terms.gate follows.terms
  cases admitted : t.gate.admitKey raw with
  | error why =>
    have ran : Store.delete now raw s = (.error (.of why),s) := by
      rw [Store.delete,Op.bind_error (admitKeyRefuses (gate ▸ admitted))]
    rw [ran]
    simp only [Terms.asked,Terms.drop,admitted,List.append_nil]
    exact ⟨rfl,follows⟩
  | ok key =>
    have gone := follows.removed key
    have found : (s.remove key).1 = (lastWrite past key).isSome := by
      rw [← follows.get key,remove]
      cases s.entries.get? key <;> rfl
    obtain ⟨m,ran,takes⟩ := deleteTaken now (gate ▸ admitted) follows.takes follows.fits
    rw [ran,found]
    simp only [Terms.asked,Terms.drop,admitted]
    exact ⟨rfl,gone.counted takes⟩

theorem Follows.deletesAll (follows : Follows t past s) (now : τ) (raws : List Value) :
    Follows t (past ++ t.drop raws) (deleteAll now raws s).2 := by
  induction raws generalizing past s with
  | nil => simpa [Terms.drop,deleteAll] using follows
  | cons raw rest ih =>
    obtain ⟨ran,left⟩ := follows.deletes now raw
    cases admitted : t.gate.admitKey raw with
    | error why =>
      have asked : t.asked raw = .error (.of why) := by rw [Terms.asked,admitted]; rfl
      rw [asked] at ran
      simp only [Terms.drop,admitted] at left ⊢
      rw [deleteAll,Op.bind_error ran]
      exact left
    | ok key =>
      have asked : t.asked raw = .ok key := by rw [Terms.asked,admitted]; rfl
      rw [asked] at ran
      simp only [Terms.drop,admitted] at left ⊢
      rw [deleteAll,Op.bind_ok ran,List.append_cons]
      have later := ih left
      rw [Op.bind_apply]
      cases others : deleteAll now rest (Store.delete now raw s).2 with
      | mk result s' =>
        rw [others] at later
        cases result <;> exact later

theorem Follows.clears (follows : Follows t past s) (now : τ) :
    Follows t (past ++ [.emptied]) (clear now s).2 := by
  have gone := follows.emptied
  obtain ⟨m,told,takes⟩ := meteredTaken (Meter.invalidationTaken now s.entries.size "clear") gone.takes
  obtain ⟨m',sized,takes'⟩ := meteredTakenThen (Meter.sizeTaken (Nat.zero_le t.capacity))
    (gone.counted takes).takes s.entries.size
  have ran : clear now s = (.ok s.entries.size,{ s with entries := .empty, tagged := .empty, meter := m' }) :=
    (Op.bind_ok told).trans sized
  rw [ran]
  exact gone.counted takes'

theorem oldestMem {entries : List (String × Entry τ)} {victim : String × Entry τ}
    (first : oldest entries = some victim) : victim ∈ entries := by
  cases entries with
  | nil => cases first
  | cons e rest =>
    cases first
    have stays (best : String × Entry τ) (rest : List (String × Entry τ)) :
        rest.foldl (fun best e => if e.2.stamp < best.2.stamp then e else best) best ∈ best :: rest := by
      induction rest generalizing best with
      | nil => exact List.mem_cons_self
      | cons e rest ih =>
        rw [List.foldl_cons]
        rcases List.mem_cons.mp (ih (if e.2.stamp < best.2.stamp then e else best)) with same | later
        · rw [same]
          split
          · exact List.mem_cons_of_mem _ List.mem_cons_self
          · exact List.mem_cons_self
        · exact List.mem_cons_of_mem _ (List.mem_cons_of_mem _ later)
    exact stays e rest

theorem Follows.evicts (follows : Follows t past s) (now : τ) :
    ∃ gone s', evict now s = (.ok gone,s') ∧ Follows t (past ++ Terms.pushed past) s' ∧
      (s.entries.size ≠ 0 → s'.entries.size < s.entries.size) := by
  unfold evict Terms.pushed
  rw [Op.bind_ok (show Op.read s = (.ok s,s) from rfl),← follows.entries]
  cases first : oldest s.entries.entries with
  | none =>
    refine ⟨none,s,rfl,by simpa using follows,fun filled => ?_⟩
    cases held : s.entries.entries with
    | nil => exact absurd (congrArg List.length held) filled
    | cons e rest => rw [held] at first; cases first
  | some victim =>
    obtain ⟨key,e⟩ := victim
    have gone := follows.removed key
    obtain ⟨m,told,takes⟩ := meteredTaken (Meter.evictionTaken now key) gone.takes
    obtain ⟨m',sized,takes'⟩ := reportSizeTakes (s := { (s.remove key).2 with meter := m }) takes gone.fits
    refine ⟨some key,{ (s.remove key).2 with meter := m' },?_,gone.counted takes',fun _ => ?_⟩
    · have removed : Op.step (·.remove key) s = (.ok (s.remove key).1,(s.remove key).2) := rfl
      dsimp only
      rw [Op.bind_ok removed,Op.bind_ok told,Op.bind_ok sized]
      rfl
    · change (s.remove key).2.entries.size < _
      rw [removeEntries]
      exact List.length_filter_lt_length_iff_exists.mpr ⟨(key,e),oldestMem first,by simp⟩

/-! Writes. -/

theorem Follows.admits (follows : Follows t past s) (now : τ) (raw : Value) :
    accessKey now raw s = (t.asked raw,s) := by
  have gate : s.gate = t.gate := congrArg Terms.gate follows.terms
  unfold Terms.asked
  cases admitted : t.gate.admitKey raw with
  | error why => rw [accessKey,Op.bind_error (admitKeyRefuses (gate ▸ admitted))]; rfl
  | ok key =>
    have unlimited : s.limiter.check now key = (true,s.limiter) := by
      rw [Limiter.check,if_neg (by simpa [Limiter.isEnabled] using follows.unlimited)]
    rw [accessPasses now (gate ▸ admitted) fun limits => absurd limits (by have := follows.unlimited; omega),
      unlimited]
    rfl

theorem Follows.makesRoom (follows : Follows t past s) (now : τ) (key : String) :
    ∃ s', makeRoom now key s = (.ok (),s') ∧ Follows t (past ++ t.room past key) s' ∧
      (lastWrite (past ++ t.room past key) key ≠ none ∨ s'.entries.size < t.capacity) := by
  have full : (!s.entries.has key && decide (s.capacity ≤ s.entries.size)) = true ↔
      lastWrite past key = none ∧ t.capacity ≤ (present past).size := by
    have capacity : s.capacity = t.capacity := congrArg Terms.capacity follows.terms
    rw [← follows.get key,← follows.entries,← capacity]
    simp [Assoc.has]
  unfold makeRoom Terms.room
  rw [Op.bind_ok (show Op.read s = (.ok s,s) from rfl)]
  split
  · rename_i crowded
    rw [if_pos (full.mp crowded)]
    obtain ⟨gone,s',ran,left,smaller⟩ := follows.evicts now
    refine ⟨s',by rw [Op.bind_ok ran]; rfl,left,.inr ?_⟩
    have filled : s.entries.size ≠ 0 := by
      have := (full.mp crowded).2
      have := follows.roomy
      rw [follows.entries]
      omega
    exact Nat.lt_of_lt_of_le (smaller filled) follows.fits
  · rename_i free
    rw [if_neg (mt full.mpr free),List.append_nil]
    refine ⟨s,rfl,follows,?_⟩
    by_cases absent : lastWrite past key = none
    · refine .inr (Nat.lt_of_not_le fun most => free (full.mpr ⟨absent,?_⟩))
      rwa [← follows.entries]
    · exact .inl absent

theorem Follows.lands (follows : Follows t past s) (now : τ) (key : String) (ttl : τ) (data : Value)
    (o : Options τ) : ∃ s',
    land now key ttl data o s = (o.tags.mapError Fault.of |>.map fun _ => key,s') ∧
      Follows t (past ++ t.room past key ++ [match o.tags with
        | .error _ => .unlabelled key
        | .ok tags => .written key ⟨data,now,ttl,tags,o.version,o.etag⟩]) s' := by
  obtain ⟨s₁,room,left,free⟩ := follows.makesRoom now key
  have freed : forgetTags key s₁ = (.ok (),s₁.forgotten key) := rfl
  rw [land,Op.bind_ok room,Op.bind_ok freed]
  cases o.tags with
  | error why => exact ⟨_,rfl,left.unlabelled key⟩
  | ok tags =>
    have stored := left.written free ⟨data,now,ttl,tags,o.version,o.etag⟩
    obtain ⟨m,sized,takes⟩ := reportSizeTakes stored.takes stored.fits
    refine ⟨_,?_,stored.counted takes⟩
    rw [Op.bind_ok (show Op.liftFailure (.ok tags) (s₁.forgotten key) = (.ok tags,s₁.forgotten key) from rfl),
      Op.bind_ok (show Op.change _ (s₁.forgotten key) = (.ok (),_) from rfl),Op.bind_ok sized]
    rfl

theorem Follows.sets (follows : Follows t past s) (now : τ) (raw data : Value) (o : Options τ) :
    set now raw data o s =
        (((t.write now past raw data o).1).mapError Fault.of,(set now raw data o s).2) ∧
      Follows t (past ++ (t.write now past raw data o).2) (set now raw data o s).2 := by
  have gate : s.gate = t.gate := congrArg Terms.gate follows.terms
  have ttlFor : s.ttlFor = t.ttlFor := congrArg Terms.ttlFor follows.terms
  have access := follows.admits now raw
  unfold Terms.write
  cases admitted : t.gate.admitKey raw with
  | error why =>
    rw [Terms.asked,admitted] at access
    rw [set,Op.bind_error access]
    exact ⟨rfl,by simpa using follows⟩
  | ok key =>
    rw [Terms.asked,admitted] at access
    rw [set,Op.bind_ok access]
    cases measured : t.gate.measure data with
    | error why =>
      have refused : weigh data s = (.error (.of why),s) := by simp only [weigh,gate,measured]
      rw [Op.bind_error refused]
      exact ⟨rfl,by simpa using follows⟩
    | ok size =>
      have passed : weigh data s = (.ok (),s) := by simp only [weigh,gate,measured]
      rw [Op.bind_ok passed,Op.bind_ok (show Op.read s = (.ok s,s) from rfl),ttlFor]
      dsimp only
      split
      · exact ⟨rfl,by rw [List.append_nil]; exact follows⟩
      · obtain ⟨s',ran,left⟩ := follows.lands now key (o.ttl.getD (t.ttlFor key)) data o
        change land now key (o.ttl.getD (t.ttlFor key)) data o s = (_,(land now key _ data o s).2) ∧
          Follows t _ (land now key _ data o s).2
        rw [ran]
        rw [List.append_assoc] at left
        cases given : o.tags <;> (rw [given] at left; exact ⟨rfl,left⟩)

theorem Follows.setsAll (follows : Follows t past s) (now : τ) (items : List (Item τ)) :
    setBatch now items s =
        (((t.writeAll now past items).1).mapError Fault.of,(setBatch now items s).2) ∧
      Follows t (past ++ (t.writeAll now past items).2) (setBatch now items s).2 := by
  induction items generalizing past s with
  | nil => exact ⟨rfl,by rw [Terms.writeAll,List.append_nil]; exact follows⟩
  | cons item rest ih =>
    rw [setBatch,Terms.writeAll]
    cases item.key with
    | none => exact ⟨rfl,by rw [List.append_nil]; exact follows⟩
    | some raw =>
      cases item.data with
      | none => exact ⟨rfl,by rw [List.append_nil]; exact follows⟩
      | some data =>
        dsimp only
        obtain ⟨ran,left⟩ := follows.sets now raw data item.options
        cases wrote : t.write now past raw data item.options with
        | mk result pieces =>
          rw [wrote] at ran left
          cases result with
          | error why =>
            rw [Op.bind_error ran]
            exact ⟨rfl,left⟩
          | ok key =>
            rw [Op.bind_ok ran]
            obtain ⟨stored,last⟩ := ih left
            dsimp only at stored last ⊢
            rw [← List.append_assoc]
            cases others : t.writeAll now (past ++ pieces) rest with
            | mk result later =>
              rw [others] at stored last
              cases result with
              | error why => rw [Op.bind_error stored]; exact ⟨rfl,last⟩
              | ok keys => rw [Op.bind_ok stored]; exact ⟨rfl,last⟩

end Store

end ReadThrough
