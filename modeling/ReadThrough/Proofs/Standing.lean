import ReadThrough.Proofs.Exact
import ReadThrough.Proofs.Records

/-! What a run of a cache leaves standing of its store, whatever is asked of it and wherever it fails: its terms,
room for its entries, an index without empty lists or repetitions, and stamps that the clock has read. -/
namespace ReadThrough
open Relation
variable {τ : Type}

namespace Store

def Stamped (readings : List τ) : Piece τ → Prop
  | .written _ e => e.stamp ∈ readings
  | _ => True

theorem Change.terms {may : Piece τ → Prop} {s s' : Store τ} (changed : s.Change may s') : s'.terms = s.terms := by
  cases changed with
  | counted l m => rfl
  | removed allowed => exact (removeTerms _).1
  | emptied allowed => rfl
  | unlabelled allowed => exact (forgottenTerms _).1
  | written allowed => exact (forgottenTerms _).1

theorem chainTerms {may : Piece τ → Prop} {s s' : Store τ} (chain : ReflTransGen (Change may) s s') :
    s'.terms = s.terms := by
  induction chain with
  | refl => rfl
  | tail _ changed ih => exact changed.terms.trans ih

variable [Quantity τ] {r : Meter τ → Meter τ → Prop} {s s' : Store τ} {readings : List τ}

omit [Quantity τ] in
theorem removesStamped (p : Piece τ) (removal : Removals p) : Stamped readings p := by
  cases p with
  | removed key => trivial
  | _ => exact removal.elim

theorem deedChain {may : Piece τ → Prop} (removes : ∀ p, Removals p → may p) (empties : may .emptied)
    (done : Deed r s s') : ReflTransGen (Change may) s s' := by
  cases done with
  | limited l => exact .single (.counted l s.meter)
  | @noted m noted => exact .single (.counted s.limiter m)
  | removed now keys reason => exact chainMono removes (removeManyChain now keys reason s)
  | cleared now => exact .head (.emptied empties) (clearAfter now s)
  | evicted now => exact chainMono removes (evictChain now s)

theorem setStamped {now : τ} (read : now ∈ readings) (raw data : Value) (o : Options τ) (s : Store τ) :
    ReflTransGen (Change (Stamped readings)) s (set now raw data o s).2 := by
  refine chainMono ?_ (setChain now raw data o s)
  intro p writes
  cases p with
  | written key e =>
    obtain ⟨tags,-,rfl⟩ := Written.entry writes
    exact read
  | _ => trivial

theorem trailMoves {may : Piece τ → Prop} (removes : ∀ p, Removals p → may p) (empties : may .emptied)
    {calls : List (Call τ)} (trail : Trail r s calls s')
    (sets : ∀ k ∈ calls, Op.Moves (Change may) (set k.now k.raw k.data k.options)) :
    ReflTransGen (Change may) s s' := by
  induction trail with
  | start => exact .refl
  | deed _ done ih => exact (ih sets).trans (deedChain removes empties done)
  | @call calls s₁ _ now raw data o ih =>
    exact (ih fun k earlier => sets k (List.mem_append_left _ earlier)).trans
      (sets _ (List.mem_append_right _ List.mem_cons_self) s₁)

theorem trailChain {calls : List (Call τ)} (trail : Trail r s calls s') (read : ∀ k ∈ calls, k.now ∈ readings) :
    ReflTransGen (Change (Stamped readings)) s s' :=
  trailMoves removesStamped trivial trail fun k called => setStamped (read k called) k.raw k.data k.options

/-! Room. -/

inductive Evicts (s s' : Store τ) : Prop where
  | nobody (empty : s.entries.entries = []) (same : s' = s)
  | oldest {victim : String × Entry τ} (first : Store.oldest s.entries.entries = some victim)
      (entries : s'.entries = s.entries.erase victim.1) (terms : s'.terms = s.terms)
      (evictions : s'.meter.evictions = s.meter.evictions + 1)

theorem evictOk {now : τ} {gone : Option String} (done : evict now s = (.ok gone,s')) : Evicts s s' := by
  rw [evict,Op.bind_ok (show Op.read s = (.ok s,s) from rfl)] at done
  cases first : Store.oldest s.entries.entries with
  | none =>
    rw [first] at done
    cases done
    refine .nobody ?_ rfl
    cases held : s.entries.entries with
    | nil => rfl
    | cons e rest => rw [held] at first; cases first
  | some victim =>
    obtain ⟨key,e⟩ := victim
    rw [first] at done
    obtain ⟨terms,-,meter⟩ := removeTerms (s := s) key
    obtain ⟨_,s₁,removed,rest⟩ := Op.bindOk done
    cases removed
    obtain ⟨_,s₂,noted,rest⟩ := Op.bindOk rest
    obtain ⟨_,s₃,sized,last⟩ := Op.bindOk rest
    cases last
    -- what the meter is told changes nothing but the meter
    have told : s₂ = { (s.remove key).2 with meter := (Meter.recordEviction now key (s.remove key).2.meter).2 } :=
      (congrArg Prod.snd noted).symm
    have size : s' = { s₂ with meter := (Meter.setSize s₂.entries.size s₂.meter).2 } :=
      (congrArg Prod.snd sized).symm
    have counts := Meter.evictionRemovals now key (s.remove key).2.meter
    have counts' := Meter.sizeRemovals s₂.entries.size s₂.meter
    simp only [Meter.removals,Prod.mk.injEq] at counts counts'
    subst size told
    refine .oldest first (removeEntries key) terms ?_
    rw [counts'.1,counts.1,meter]

theorem evictedSize {victim : String × Entry τ} (first : Store.oldest s.entries.entries = some victim) :
    (s.entries.erase victim.1).size < s.entries.size :=
  List.length_filter_lt_length_iff_exists.mpr ⟨victim,oldestMem first,by simp⟩

theorem makeRoomOk {now : τ} {key : String} {u : Unit} (done : makeRoom now key s = (.ok u,s')) :
    (s.entries.has key = true ∨ s.entries.size < s.capacity) ∧ s' = s ∨
      s.entries.has key = false ∧ s.capacity ≤ s.entries.size ∧ Evicts s s' := by
  obtain ⟨s₁,s₂,read,rest⟩ := Op.bindOk done
  cases read
  split at rest
  · rename_i crowded
    obtain ⟨gone,s₃,evicted,last⟩ := Op.bindOk rest
    cases last
    simp only [Bool.and_eq_true,Bool.not_eq_true',decide_eq_true_eq] at crowded
    exact .inr ⟨crowded.1,crowded.2,evictOk evicted⟩
  · rename_i free
    cases rest
    simp only [Bool.and_eq_true,Bool.not_eq_true',decide_eq_true_eq,not_and,Nat.not_le] at free
    refine .inl ⟨?_,rfl⟩
    cases present : s.entries.has key with
    | true => exact .inl rfl
    | false => exact .inr (free present)

theorem madeRoom {now : τ} {key : String} {u : Unit} (roomy : 0 < s.capacity)
    (done : makeRoom now key s = (.ok u,s')) (e : Entry τ) (fits : s'.entries.size ≤ s.capacity)
    (fitted : s.entries.size ≤ s.capacity) : (s'.entries.put key e).size ≤ s.capacity := by
  rw [Assoc.putSize]
  rcases makeRoomOk done with ⟨free,rfl⟩ | ⟨absent,full,evicts⟩
  · split
    · exact fits
    · exact free.resolve_left (by assumption)
  · cases evicts with
    | nobody empty same =>
      have none : s.entries.size = 0 := congrArg List.length empty
      omega
    | oldest first entries =>
      have fewer := evictedSize first
      rw [← entries] at fewer
      split <;> omega

theorem setFits (roomy : 0 < s.capacity) (fitted : s.entries.size ≤ s.capacity) (now : τ) (raw data : Value)
    (o : Options τ) : (set now raw data o s).2.entries.size ≤ s.capacity := by
  have storing : Meter.Storing (· ≤ s.capacity) fun _ _ : Meter τ => True :=
    ⟨fun _ _ _ => trivial,fun _ _ _ _ => trivial,fun _ _ => trivial⟩
  have free (l : Limiter τ) (key : String) (s₁ : Store τ) (e : Entry τ)
      (made : makeRoom now key { s with limiter := l } = (.ok (),s₁)) (fits : s₁.entries.size ≤ s.capacity) :
      (s₁.entries.put key e).size ≤ s.capacity :=
    madeRoom (s := { s with limiter := l }) roomy made e fits fitted
  exact (setRecords storing Nat.le_trans now raw data o free fitted).1

theorem trailFits {calls : List (Call τ)} (trail : Trail r s calls s') (roomy : 0 < s.capacity)
    (fitted : s.entries.size ≤ s.capacity) : s'.capacity = s.capacity ∧ s'.entries.size ≤ s.capacity := by
  have storing : Meter.Storing (· ≤ s.capacity) fun _ _ : Meter τ => True :=
    ⟨fun _ _ _ => trivial,fun _ _ _ _ => trivial,fun _ _ => trivial⟩
  induction trail with
  | start => exact ⟨rfl,fitted⟩
  | deed _ done ih =>
    have chain : ReflTransGen (Change (Stamped [])) _ _ := deedChain removesStamped trivial done
    refine ⟨(congrArg Terms.capacity (chainTerms chain)).trans ih.1,?_⟩
    exact (deedRecords storing Nat.le_trans (fun _ => trivial) done ih.2).1
  | @call calls s₁ _ now raw data o ih =>
    obtain ⟨same,fits⟩ := ih
    refine ⟨?_,?_⟩
    · exact (congrArg Terms.capacity (chainTerms (setChain now raw data o s₁))).trans same
    · rw [← same] at roomy fits ⊢
      exact setFits roomy fits now raw data o

end Store

namespace Coordinator
variable [Quantity τ]

def Use.Labelled : Use τ → Prop
  | .errand a => a.Labelled
  | .step (.set _ _ o) => o.Labelled
  | _ => True

/-! The calls of set that a use makes are made at its moment, with tags that it was given or that were tags
when its task began. -/

theorem batchGiven {now : τ} (s : Store τ) (items : List (Item τ)) {k : Store.Call τ}
    (called : k ∈ s.batchCalls now items) :
    k.now = now ∧ ((∀ item ∈ items, item.options.Labelled) → k.options.Labelled) := by
  induction items generalizing s with
  | nil => cases called
  | cons item rest ih =>
    rw [Store.batchCalls] at called
    split at called
    · rcases List.mem_cons.mp called with rfl | later
      · exact ⟨rfl,fun labelled => labelled item List.mem_cons_self⟩
      · split at later
        · obtain ⟨moment,given⟩ := ih _ later
          exact ⟨moment,fun labelled => given fun item mem => labelled item (List.mem_cons_of_mem _ mem)⟩
        · cases later
    · cases called

theorem callsGiven (c : Coordinator τ) (now : τ) (u : Use τ) {k : Store.Call τ} (called : k ∈ c.calls now u) :
    k.now = now ∧ (u.Labelled → k.options.Labelled) := by
  cases u with
  | errand a =>
    cases a with
    | set raw data o =>
      cases List.mem_singleton.mp called
      exact ⟨rfl,id⟩
    | setBatch items => exact batchGiven c.store items called
    | _ => cases called
  | step s =>
    cases s with
    | set raw data o =>
      simp only [calls,stepCalls] at called
      split at called
      · split at called
        · cases List.mem_singleton.mp called
          exact ⟨rfl,id⟩
        · cases called
      · cases called
    | advance n a =>
      simp only [calls,stepCalls] at called
      split at called
      · cases called
      split at called
      · cases called
      split at called
      · simp only [resultCalls] at called
        split at called
        · cases List.mem_singleton.mp called
          exact ⟨rfl,fun _ => ⟨_,rfl⟩⟩
        · cases called
      · cases called
    | _ => cases called

theorem runCallsMoment (c : Coordinator τ) (run : List (τ × Use τ)) {k : Store.Call τ}
    (called : k ∈ c.runCalls run) : k.now ∈ run.map (·.1) := by
  induction run generalizing c with
  | nil => cases called
  | cons m rest ih =>
    rcases List.mem_append.mp called with first | later
    · rw [(callsGiven c m.1 m.2 first).1]
      exact List.mem_cons_self
    · exact List.mem_cons_of_mem _ (ih _ later)

theorem runCallsLabelled (c : Coordinator τ) {run : List (τ × Use τ)} (labelled : ∀ m ∈ run, m.2.Labelled)
    {k : Store.Call τ} (called : k ∈ c.runCalls run) : k.options.Labelled := by
  induction run generalizing c with
  | nil => cases called
  | cons m rest ih =>
    rcases List.mem_append.mp called with first | later
    · exact (callsGiven c m.1 m.2 first).2 (labelled m List.mem_cons_self)
    · exact ih _ (fun m mem => labelled m (List.mem_cons_of_mem _ mem)) later

end Coordinator

structure Store.Standing (t : Terms τ) (readings : List τ) (s : Store τ) : Prop where
  terms : s.terms = t
  roomy : 0 < s.capacity
  fits : s.entries.size ≤ s.capacity
  distinct : s.entries.Distinct
  tidy : Tidy s.tagged
  stamped : ∀ key e, s.entries.get? key = some e → e.stamp ∈ readings

/-! Where nothing is asked of the meter. -/

theorem Meter.workingAny [Quantity τ] : Working fun _ _ : Meter τ => True := ⟨fun _ _ => trivial,fun _ _ _ => trivial⟩

theorem Meter.lookingAny [Quantity τ] : Looking fun _ _ : Meter τ => True :=
  ⟨fun _ _ => trivial,fun _ _ => trivial,fun _ _ => trivial⟩

variable [Quantity τ]

theorem Coordinator.usedStanding {r : Meter τ → Meter τ → Prop} (working : Meter.Working r)
    (looking : Meter.Looking r) {capacity : Int} {ttlFor : String → τ} {gate : Gate} {limiter : Limiter τ}
    {meter : Meter τ} {store : Store τ} (made : Store.create capacity ttlFor gate limiter meter = .ok store)
    {c : Coordinator τ} (holds : c.store = store) {run : List (τ × Use τ)} (within : ∀ m ∈ run, m.2.Within r) :
    (c.used run).store.Standing ⟨capacity.toNat,ttlFor,gate⟩ (run.map (·.1)) := by
  have trail := usedTrail working looking c within
  have chain := Store.trailChain trail fun k called => c.runCallsMoment run called
  have roomy := Store.createRoomy made
  obtain rfl := Store.createOk made
  rw [holds] at trail chain
  have terms := Store.chainTerms chain
  obtain ⟨same,fits⟩ := Store.trailFits trail roomy (Nat.zero_le _)
  refine ⟨terms,same ▸ roomy,same ▸ fits,Store.chainDistinct chain Assoc.emptyDistinct,
    Store.chainTidy chain Store.emptyTidy,fun key e found => ?_⟩
  rcases Store.chainEntries chain found with before | stamped
  · cases before
  · exact stamped

end ReadThrough
