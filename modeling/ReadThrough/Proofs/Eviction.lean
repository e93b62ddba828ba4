import ReadThrough.Proofs.Foremost
import ReadThrough.Proofs.Standing

/-! Capacity and eviction. A store never holds more entries than it may, and a write that succeeds pushes out
the first of the oldest entries exactly if it is full and the key is new. An entry that is written again is as
young as its last write, but keeps its place. -/
namespace ReadThrough
open Relation

namespace Assoc
variable {κ α : Type} [DecidableEq κ]

theorem eraseAt {m : Assoc κ α} (distinct : m.Distinct) {before after : List (κ × α)} {e : κ × α}
    (entries : m.entries = before ++ e :: after) : (m.erase e.1).entries = before ++ after := by
  have keys : m.keys = before.map (·.1) ++ e.1 :: after.map (·.1) := by
    rw [Assoc.keys,entries,List.map_append,List.map_cons]
  have apart := distinct
  rw [Distinct,keys,List.nodup_append] at apart
  obtain ⟨-,behind,earlier⟩ := apart
  have others : ∀ x ∈ before ++ after, x.1 ≠ e.1 := by
    intro x mem
    rcases List.mem_append.mp mem with first | later
    · exact earlier _ (List.mem_map_of_mem first) _ List.mem_cons_self
    · exact fun same => (List.nodup_cons.mp behind).1 (same ▸ List.mem_map_of_mem later)
  have kept : (before ++ after).filter (fun x => x.1 ≠ e.1) = before ++ after :=
    List.filter_eq_self.mpr fun x mem => decide_eq_true (others x mem)
  rw [List.filter_append] at kept
  change m.entries.filter _ = _
  rw [entries,List.filter_append,List.filter_cons_of_neg (by simp),kept]

theorem putAbsent {m : Assoc κ α} {key : κ} (absent : m.get? key = none) (value : α) :
    (m.put key value).entries = m.entries ++ [(key,value)] := by
  obtain ⟨entries⟩ := m
  simp only [get?] at absent
  change place key value entries = _
  induction entries with
  | nil => rfl
  | cons e rest ih =>
    obtain ⟨k,v⟩ := e
    rw [find] at absent
    split at absent
    · cases absent
    · rename_i other
      rw [place,if_neg other,ih absent]
      rfl

end Assoc

variable {τ : Type} [Quantity τ]

namespace Store
variable {s s' : Store τ}

def Older (a b : String × Entry τ) : Prop := a.2.stamp < b.2.stamp

instance : DecidableRel (Older (τ := τ)) := fun a b => inferInstanceAs (Decidable (a.2.stamp < b.2.stamp))

theorem stampsGraded {readings : List τ} (graded : Graded (· < ·) readings) {entries : List (String × Entry τ)}
    (stamped : ∀ e ∈ entries, e.2.stamp ∈ readings) : Graded Older entries := fun a ha b hb older =>
  have both := graded _ (stamped a ha) _ (stamped b hb) older
  ⟨both.1,fun c hc => both.2 _ (stamped c hc)⟩

theorem oldestForemost {entries : List (String × Entry τ)} {victim : String × Entry τ}
    (first : oldest entries = some victim) : ∃ before after, entries = before ++ victim :: after ∧
      (Graded Older entries → Foremost Older before victim after) := by
  by_cases graded : Graded Older entries
  · cases entries with
    | nil => cases first
    | cons e rest =>
      cases first
      obtain ⟨before,after,split,foremost⟩ := foldForemost graded
      exact ⟨before,after,split,fun _ => foremost⟩
  · obtain ⟨before,after,split⟩ := List.append_of_mem (oldestMem first)
    exact ⟨before,after,split,fun compares => absurd compares graded⟩

theorem landOk {now ttl : τ} {key k : String} {data : Value} {o : Options τ}
    (done : land now key ttl data o s = (.ok k,s')) : k = key ∧ ∃ s₁ tags, makeRoom now key s = (.ok (),s₁) ∧
      o.tags = .ok tags ∧ s'.entries = s₁.entries.put key ⟨data,now,ttl,tags,o.version,o.etag⟩ ∧
      s'.meter.evictions = s₁.meter.evictions := by
  obtain ⟨_,s₁,room,rest⟩ := Op.bindOk done
  obtain ⟨_,s₂,freed,rest⟩ := Op.bindOk rest
  obtain rfl : s₁.forgotten key = s₂ := congrArg Prod.snd freed
  obtain ⟨tags,s₃,lifted,rest⟩ := Op.bindOk rest
  obtain ⟨tagged,rfl⟩ := Op.liftOk lifted
  obtain ⟨_,s₄,inserted,rest⟩ := Op.bindOk rest
  cases inserted
  obtain ⟨_,s₅,sized,last⟩ := Op.bindOk rest
  cases last
  generalize new : (⟨data,now,ttl,tags,o.version,o.etag⟩ : Entry τ) = e at sized
  have size : s' = { (s₁.forgotten key).insert key e with
      meter := (Meter.setSize ((s₁.forgotten key).insert key e).entries.size (s₁.forgotten key).meter).2 } :=
    (congrArg Prod.snd sized).symm
  have meter := forgottenMeter (s := s₁) key
  have counts := Meter.sizeRemovals ((s₁.forgotten key).insert key e).entries.size (s₁.forgotten key).meter
  simp only [Meter.removals,Prod.mk.injEq] at counts
  subst size
  refine ⟨rfl,s₁,tags,room,tagged,?_,?_⟩
  · rw [new,insert,forgottenEntries]
  · rw [counts.1,meter]

/-- What a write of an entry leaves of the others. Which of them are the oldest is told by readings that compare. -/
structure Lodged (readings : List τ) (key : String) (e : Entry τ) (s s' : Store τ) : Prop where
  stored : s'.entries.get? key = some e
  spared : s.entries.has key = true ∨ s.entries.size < s.capacity →
    s'.meter.evictions = s.meter.evictions ∧ s'.entries = s.entries.put key e ∧
    ∀ k, k ≠ key → s'.entries.get? k = s.entries.get? k
  evicted : s.entries.has key = false → s.capacity ≤ s.entries.size → ∃ before victim after,
    s.entries.entries = before ++ victim :: after ∧
    (Graded (· < ·) readings → Foremost Older before victim after) ∧
    s'.meter.evictions = s.meter.evictions + 1 ∧ s'.entries.entries = before ++ after ++ [(key,e)] ∧
    s'.entries.get? victim.1 = none ∧ ∀ k, k ≠ key → k ≠ victim.1 → s'.entries.get? k = s.entries.get? k

theorem landLodges {readings : List τ} {now ttl : τ} {key k : String} {data : Value} {o : Options τ}
    (roomy : 0 < s.capacity) (distinct : s.entries.Distinct)
    (stamped : ∀ key e, s.entries.get? key = some e → e.stamp ∈ readings)
    (done : land now key ttl data o s = (.ok k,s')) : k = key ∧ ∃ e, Lodged readings key e s s' := by
  obtain ⟨rfl,s₁,tags,room,-,entries,evictions⟩ := landOk done
  generalize (⟨data,now,ttl,tags,o.version,o.etag⟩ : Entry τ) = e at entries
  refine ⟨rfl,e,by rw [entries,Assoc.putSame],fun free => ?_,fun absent full => ?_⟩
  · rcases makeRoomOk room with ⟨-,rfl⟩ | ⟨absent,full,-⟩
    · refine ⟨evictions,entries,fun other apart => ?_⟩
      rw [entries,Assoc.get?_put,if_neg (Ne.symm apart)]
    · rw [absent] at free
      exact absurd (free.resolve_left Bool.false_ne_true) (Nat.not_lt.mpr full)
  · rcases makeRoomOk room with ⟨free,-⟩ | ⟨-,-,evicts⟩
    · rw [absent] at free
      exact absurd (free.resolve_left Bool.false_ne_true) (Nat.not_lt.mpr full)
    cases evicts with
    | nobody empty =>
      have none : s.entries.size = 0 := congrArg List.length empty
      omega
    | @oldest victim first left terms counted =>
      obtain ⟨before,after,split,foremost⟩ := oldestForemost first
      have stamps : ∀ e ∈ s.entries.entries, e.2.stamp ∈ readings := fun e mem =>
        stamped e.1 e.2 (Assoc.memGet distinct mem)
      have gone : s.entries.get? k = none := by simpa [Assoc.has] using absent
      have apart : victim.1 ≠ k := by
        rintro rfl
        cases gone.symm.trans (Assoc.memGet distinct (oldestMem first))
      have none : (s.entries.erase victim.1).get? k = none := by rw [Assoc.get?_erase,gone,ite_self]
      rw [left] at entries
      refine ⟨before,victim,after,split,fun graded => foremost (stampsGraded graded stamps),
        evictions.trans counted,?_,?_,fun other new gone => ?_⟩
      · rw [entries,Assoc.putAbsent none,Assoc.eraseAt distinct split]
      · rw [entries,Assoc.get?_put,if_neg (Ne.symm apart),Assoc.eraseSame]
      · rw [entries,Assoc.get?_put,if_neg (Ne.symm new),Assoc.get?_erase,if_neg (Ne.symm gone)]

theorem setLodges {t : Terms τ} {readings : List τ} (standing : s.Standing t readings) {now : τ} {raw data : Value}
    {o : Options τ} {key : String} (done : set now raw data o s = (.ok key,s')) :
    ∃ e, Lodged readings key e s s' := by
  rcases setCases now raw data o s with ⟨f,l,refused⟩ | ⟨k,l,lands⟩
  · rw [refused] at done
    cases done
  · rw [lands] at done
    obtain ⟨rfl,e,lodged⟩ := @landLodges τ _ { s with limiter := l } s' readings now _ k key data o standing.roomy
      standing.distinct standing.stamped done
    exact ⟨e,lodged.stored,lodged.spared,lodged.evicted⟩

end Store

namespace Coordinator

/-- In every run of a store that was new, by itself or under a coordinator, it holds no more entries than it may;
and a write that then succeeds pushes out one entry, the first of the oldest, if the store is full and the key is
new, and none otherwise. -/
theorem evictsOldest {capacity : Int} {ttlFor : String → τ} {gate : Gate} {limiter : Limiter τ} {meter : Meter τ}
    {store : Store τ} (made : Store.create capacity ttlFor gate limiter meter = .ok store)
    {c : Coordinator τ} (holds : c.store = store) {run : List (τ × Use τ)}
    (within : ∀ m ∈ run, m.2.Within fun _ _ => True) :
    let s := (c.used run).store
    s.entries.size ≤ s.capacity ∧ (s.capacity : Int) = capacity ∧
      ∀ now raw data o key s', Store.set now raw data o s = (.ok key,s') →
        s'.entries.size ≤ s.capacity ∧ ∃ e, Store.Lodged (run.map (·.1)) key e s s' := by
  intro s
  have standing := usedStanding Meter.workingAny Meter.lookingAny made holds within
  have roomy := Store.createRoomy made
  refine ⟨standing.fits,?_,fun now raw data o key s' done => ?_⟩
  · have same : s.capacity = capacity.toNat := congrArg Store.Terms.capacity standing.terms
    obtain rfl := Store.createOk made
    change 0 < capacity.toNat at roomy
    omega
  · have fits := Store.setFits standing.roomy standing.fits now raw data o
    rw [done] at fits
    exact ⟨fits,Store.setLodges standing done⟩

def pairStore : Store Number :=
  { Store.narrowStore with capacity := 2, meter := { Store.narrowStore.meter with capacity := 2 } }

def pairCache : Coordinator Number :=
  create pairStore ⟨1,.whole 60,.whole 10,.whole 40⟩
    ⟨⟨0,.whole 0,.whole 0,.whole 0,none⟩,none,fun low _ => low⟩ true false

def readAt (seconds : Int) : Number := .real (Decimal.ofWhole seconds)

def tiedDay : List (Number × Use Number) := [
  (readAt 1000,.errand (.set (.str "a") (.int 1) (.none Number))),
  (readAt 1000,.errand (.set (.str "b") (.int 2) (.none Number))),
  (readAt 1001,.errand (.set (.str "a") (.int 3) (.none Number))),
  (readAt 1001,.errand (.set (.str "c") (.int 4) (.none Number)))]

def fourth (s : Store Number) : Except Fault String × Store Number :=
  Store.set (readAt 1002) (.str "d") (.int 5) (.none Number) s

theorem tieEvicted :
    let s := (pairCache.used tiedDay).store
    Store.create 2 (fun _ => .whole 60) ⟨[],8,100⟩ (.create 0 (.whole 60)) pairStore.meter = .ok pairStore ∧
      (∀ m ∈ tiedDay, m.2.Within fun _ _ => True) ∧ Graded (· < ·) (tiedDay.map (·.1)) ∧
      s.entries.keys = ["a","c"] ∧ fourth s = (.ok "d",(fourth s).2) ∧ (fourth s).2.entries.keys = ["c","d"] ∧
      (fourth s).2.entries.size ≤ s.capacity ∧ ∃ e, Store.Lodged (tiedDay.map (·.1)) "d" e s (fourth s).2 := by
  have made : Store.create 2 (fun _ => .whole 60) ⟨[],8,100⟩ (.create 0 (.whole 60)) pairStore.meter =
      .ok pairStore := rfl
  have holds : pairCache.store = pairStore := rfl
  have within : ∀ m ∈ tiedDay, m.2.Within fun _ _ => True := by simp [tiedDay,Use.Within]
  have numbers : ∀ x ∈ [1000,1000,1001,1001].map Decimal.ofWhole, x.isNaN = false := by decide +kernel
  have done : fourth (pairCache.used tiedDay).store = (.ok "d",(fourth (pairCache.used tiedDay).store).2) := rfl
  obtain ⟨-,-,lodges⟩ := evictsOldest made holds within
  exact ⟨made,within,Number.realGraded numbers,rfl,done,rfl,lodges _ _ _ _ _ _ done⟩

end Coordinator

end ReadThrough
