import ReadThrough.Proofs.Screened

/-! What is in the cache has passed its gate. Whoever writes, every entry lies under a clean key and
weighs no more than allowed; a coordinator that refuses sensitive data has scanned it under that key.
The rules are those of any gate. -/
namespace ReadThrough
open Relation

namespace Key

def Listed (c : Char) : Prop :=
  'a' ≤ c ∧ c ≤ 'z' ∨ 'A' ≤ c ∧ c ≤ 'Z' ∨ '0' ≤ c ∧ c ≤ '9' ∨ c ∈ [':','_','-','.','/']

theorem allowedListed {c : Char} (allowed : isAllowed c = true) : Listed c := by
  unfold isAllowed Char.isAlphanum Char.isAlpha Char.isUpper Char.isLower Char.isDigit at allowed
  simp only [Bool.or_eq_true,Bool.and_eq_true,decide_eq_true_eq] at allowed
  rcases allowed with ((((((upper | lower) | digit) | rfl) | rfl) | rfl) | rfl) | rfl
  · exact .inr (.inl upper)
  · exact .inl lower
  · exact .inr (.inr (.inl digit))
  all_goals exact .inr (.inr (.inr (by decide)))

theorem cleanedListed {raw : String} {c : Char} (mem : c ∈ (cleaned raw).toList) : Listed c := by
  rw [cleaned,String.toList_ofList] at mem
  obtain ⟨d,-,rfl⟩ := List.mem_map.mp mem
  exact allowedListed (cleanAllowed d)

theorem cleanedFilled {raw : String} (filled : raw.isEmpty = false) : cleaned raw ≠ "" := by
  rw [String.isEmpty_eq_false_iff] at filled
  simpa [cleaned,String.ofList_eq_empty_iff] using filled

end Key

structure Gate.Passed (g : Gate) (strict : Bool) (key : String) (v : Value) : Prop where
  named : key ≠ ""
  listed : ∀ c ∈ key.toList, Key.Listed c
  short : key.length ≤ g.keyLimit
  light : ∃ text, v.written = .ok text ∧ text.utf8ByteSize ≤ g.valueLimit
  scanned : strict = true → g.judge key v = .allowed

theorem Gate.measureOk {g : Gate} {v : Value} {size : Nat} (measured : g.measure v = .ok size) :
    ∃ text, v.written = .ok text ∧ (text.utf8ByteSize : Int) ≤ g.valueLimit := by
  unfold measure at measured
  cases written : v.written with
  | error why => simp [written] at measured
  | ok text =>
    simp only [written] at measured
    split at measured
    · cases measured
    · exact ⟨text,rfl,by omega⟩

theorem Store.Written.passed {τ : Type} [Quantity τ] {g : Gate} {ttlFor : String → τ} {now : τ}
    {raw data : Value} {o : Options τ} {key : String} {e : Entry τ}
    (written : Store.Written g ttlFor now raw data o key e) {strict : Bool}
    (scanned : strict = true → g.judge key e.data = .allowed) : g.Passed strict key e.data := by
  obtain ⟨text,-,filled,rfl,short⟩ := Key.sanitizeOk written.admitted
  obtain ⟨size,measured⟩ := written.weighed
  obtain ⟨tags,-,rfl⟩ := written.entry
  exact ⟨Key.cleanedFilled filled,fun c => Key.cleanedListed,short,Gate.measureOk measured,scanned⟩

namespace Coordinator
variable {τ : Type} [Quantity τ]

theorem storesWritten {c : Coordinator τ} {now : τ} {s : Step τ} {key : String} {e : Entry τ}
    (stores : c.Stores now s (.written key e)) : ∃ raw data o,
      Store.Written c.store.gate c.store.ttlFor now raw data o key e := by
  cases s with
  | set raw data o => exact ⟨raw,data,o,stores⟩
  | advance n a =>
    obtain ⟨t,-,-,data,-,-,written⟩ := stores
    exact ⟨_,data,_,written⟩
  | clear => cases stores
  | _ => exact stores.elim

/-- The states of a coordinator with this gate: new over a new store, after any step whose refreshes are
scheduled under stored keys, after an eviction. -/
inductive Reached (g : Gate) (strict : Bool) : Coordinator τ → Prop where
  | created {capacity : Int} {ttlFor : String → τ} {limiter : Limiter τ} {meter : Meter τ} {store : Store τ}
      (made : Store.create capacity ttlFor g limiter meter = .ok store) (rule : BreakerRule τ)
      (service : Service τ) (toleratesStale : Bool) :
      Reached g strict (create store rule service toleratesStale strict)
  | stepped {c : Coordinator τ} (before : Reached g strict c) (now : τ) {s : Step τ} (names : s.Keyed) :
      Reached g strict (c.step now s)
  | evicted {c : Coordinator τ} (before : Reached g strict c) (now : τ) :
      Reached g strict (inStore (Store.evict now) c).2

theorem Reached.after {g : Gate} {strict : Bool} {c : Coordinator τ} (reached : c.Reached g strict)
    {run : List (τ × Step τ)} (names : ∀ m ∈ run, m.2.Keyed) : (c.after run).Reached g strict := by
  induction run generalizing c with
  | nil => exact reached
  | cons m rest ih =>
    exact ih (reached.stepped m.1 (names m List.mem_cons_self)) fun k mem =>
      names k (List.mem_cons_of_mem _ mem)

structure Kept (g : Gate) (strict : Bool) (c : Coordinator τ) : Prop where
  gate : c.store.gate = g
  refuses : c.refusesSensitive = strict
  keyed : c.Keyed
  passed : ∀ key e, c.store.entries.get? key = some e → g.Passed strict key e.data

theorem keptStep {g : Gate} {strict : Bool} {c : Coordinator τ} (kept : c.Kept g strict) (now : τ)
    {s : Step τ} (names : s.Keyed) : (c.step now s).Kept g strict := by
  have chain := c.stepTurns now s
  refine ⟨(chainGate chain).trans kept.gate,(chainStrict chain).trans kept.refuses,
    stepKeyed kept.keyed now names,fun key e found => ?_⟩
  by_cases old : c.store.entries.get? key = some e
  · exact kept.passed key e old
  · have stores := (Store.chainEntries (chainStore chain) found).resolve_left old
    obtain ⟨raw,data,o,written⟩ := storesWritten stores
    rw [← kept.gate]
    refine written.passed fun on => ?_
    exact writesJudged kept.keyed (kept.refuses.trans on) old found

theorem keptEvicted {g : Gate} {strict : Bool} {c : Coordinator τ} (kept : c.Kept g strict) (now : τ) :
    (inStore (Store.evict now) c).2.Kept g strict := by
  have chain := Store.evictChain now c.store
  refine ⟨(Store.chainGate chain).trans kept.gate,kept.refuses,kept.keyed,fun key e found => ?_⟩
  exact kept.passed key e ((Store.chainEntries chain found).resolve_right fun written => written)

/-- Whatever happens, and in whatever order, nothing is stored that the gate does not let pass. -/
theorem entriesPassed {g : Gate} {strict : Bool} {c : Coordinator τ} (reached : c.Reached g strict)
    {key : String} {e : Entry τ} (found : c.store.entries.get? key = some e) :
    g.Passed strict key e.data := by
  have kept : c.Kept g strict := by
    clear found
    induction reached with
    | created made rule service toleratesStale =>
      obtain rfl := Store.createOk made
      exact ⟨rfl,rfl,fun n t found => (by cases found),fun key e found => (by cases found)⟩
    | stepped before now names ih => exact keptStep ih now names
    | evicted before now ih => exact keptEvicted ih now
  exact kept.passed key e found

def noisyGate : Gate := ⟨[⟨"!",fun text => text.toList.contains '!'⟩],8,100⟩

def fetchedBeside : List (Number × Step Number) := [
  (.whole 1000,.set (.str "my key") (.int 1) (.none Number)),
  (.whole 1001,.fetch "a" (.str "k") userRequest),(.whole 1001,.begin 0),
  (.whole 1002,.advance 0 (.returned (.int 2)))]

def evictedCache : Coordinator Number :=
  (inStore (Store.evict (.whole 1003)) ((strictCache noisyGate).after fetchedBeside)).2

theorem evictedReached : evictedCache.Reached noisyGate true := by
  have made : Store.create 10 smallStore.ttlFor noisyGate smallStore.limiter smallStore.meter =
      .ok { smallStore with gate := noisyGate } := rfl
  have start : (strictCache noisyGate).Reached noisyGate true := .created made _ _ _
  exact .evicted (start.after (by simp [fetchedBeside,Step.Keyed])) _

theorem fetchedPassed : evictedCache.Reached noisyGate true ∧
    evictedCache.store.entries.get? "my_key" = none ∧
    ∃ e, evictedCache.store.entries.get? "k" = some e ∧ noisyGate.Passed true "k" e.data := by
  have kept : (evictedCache.store.entries.get? "k").isSome = true := by decide +kernel
  obtain ⟨e,found⟩ := Option.isSome_iff_exists.mp kept
  exact ⟨evictedReached,rfl,e,found,entriesPassed evictedReached found⟩

end Coordinator

end ReadThrough
