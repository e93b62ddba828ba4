import ReadThrough.Proofs.Ordered
import ReadThrough.Proofs.Traffic

/-! Open circuits. Until its time has come an open circuit turns every call away and stays open, whatever
the calls do that were let in before; nobody but who forces it open anew moves that time, and only on. -/
namespace ReadThrough
open Relation
variable {τ : Type} [Quantity τ] [Quantity.Ordered τ]

namespace Breaker
variable {b b' : Breaker τ} {now later : τ} {may : Liberty → Prop}

def Bounded (now : τ) (b : Breaker τ) : Prop :=
  b.phase = .opened → ∀ later, now ≤ later → b.openUntil ≤ later + b.cooldown

theorem Bounded.onward (bounded : b.Bounded now) (onward : now ≤ later) : b.Bounded later :=
  fun opened last next => bounded opened last (Quantity.Ordered.trans onward next)

theorem tripBounded (b : Breaker τ) (now : τ) : (b.trip now).2.Bounded now := by
  intro _ later onward
  simp only [trip,moveToState]
  exact Quantity.Ordered.add _ onward

theorem Change.bounded (change : b.Change now may b') (bounded : b.Bounded now) : b'.Bounded now := by
  cases change with
  | looked =>
    rcases b.lookState now with kept | ⟨-,turned⟩
    · rw [kept]
      exact bounded
    · rw [turned]
      intro opened
      cases opened
  | entered allowed =>
    rcases b.enterState now with ⟨-,-,kept⟩ | ⟨-,-,-,raised⟩ | ⟨-,-,-,kept⟩
    · rw [kept]
      exact bounded
    · rw [raised]
      exact bounded
    · rw [kept]
      exact bounded
  | succeeded =>
    unfold succeed
    dsimp only
    split
    · rw [moveToState]
      intro opened
      cases opened
    · exact bounded
  | failed =>
    unfold fail
    dsimp only
    split
    · exact tripBounded _ now
    · split
      · exact tripBounded _ now
      · exact bounded
  | forced allowed => exact tripBounded b now
  | reset allowed =>
    rw [Breaker.reset,moveToState]
    intro opened
    cases opened
  | abandoned | forgiven | pruned => exact bounded

theorem chainBounded (chain : ReflTransGen (Change now may) b b') (bounded : b.Bounded now) : b'.Bounded now := by
  induction chain with
  | refl => exact bounded
  | tail _ change ih => exact change.bounded ih

def Shut (now : τ) (b : Breaker τ) : Prop := b.phase = .opened ∧ ¬ b.openUntil ≤ now

structure Keeps (may : Liberty → Prop) (b b' : Breaker τ) : Prop where
  opened : b'.phase = .opened
  longer : b.openUntil ≤ b'.openUntil
  unmoved : ¬ may .force → b'.openUntil = b.openUntil

theorem Keeps.trans {b'' : Breaker τ} (first : Keeps may b b') (later : Keeps may b' b'') : Keeps may b b'' :=
  ⟨later.opened,Quantity.Ordered.trans first.longer later.longer,
    fun forceless => (later.unmoved forceless).trans (first.unmoved forceless)⟩

theorem Keeps.shut (keeps : Keeps may b b') (shut : b.Shut now) : b'.Shut now :=
  ⟨keeps.opened,fun reached => shut.2 (Quantity.Ordered.trans keeps.longer reached)⟩

theorem Keeps.same (opened : b'.phase = .opened) (same : b'.openUntil = b.openUntil) : Keeps may b b' :=
  ⟨opened,same ▸ Quantity.Ordered.refl _,fun _ => same⟩

theorem Change.keeps (change : b.Change now may b') (resetless : ¬ may .reset) (bounded : b.Bounded now)
    (shut : b.Shut now) : Keeps may b b' := by
  obtain ⟨opened,early⟩ := shut
  cases change with
  | looked =>
    rw [lookSame fun due => early due.2]
    exact .same opened rfl
  | entered allowed =>
    rcases b.enterState now with ⟨-,closed,-⟩ | ⟨-,halfOpen,-⟩ | ⟨-,-,-,kept⟩
    · cases opened.symm.trans closed
    · cases opened.symm.trans halfOpen
    · rw [kept]
      exact .same opened rfl
  | succeeded =>
    exact .same (by simp [succeed,opened]) (by simp [succeed,opened])
  | failed =>
    exact .same (by simp [fail,prune,opened]) (by simp [fail,prune,opened])
  | forced allowed =>
    refine ⟨?_,?_,fun forceless => absurd allowed forceless⟩
    · simp only [forceOpen,trip,moveToState]
    · simp only [forceOpen,trip,moveToState]
      exact bounded opened now (Quantity.Ordered.refl _)
  | reset allowed => exact absurd allowed resetless
  | abandoned | forgiven | pruned => exact .same opened rfl

theorem chainKeeps (chain : ReflTransGen (Change now may) b b') (resetless : ¬ may .reset)
    (bounded : b.Bounded now) (shut : b.Shut now) : Keeps may b b' := by
  induction chain with
  | refl => exact .same shut.1 rfl
  | tail before change ih => exact ih.trans (change.keeps resetless (chainBounded before bounded) (ih.shut shut))

end Breaker
namespace Rehearsal.Exchange
variable {e : Exchange τ} {now : τ} {endpoint : String}

/-- At an open circuit whose time has not come: whoever asks is turned away, told how long that will be, and
never gets to attempt anything; and the circuit stays open, until the same time unless it is forced. -/
structure Closes (e : Exchange τ) (endpoint : String) (now : τ) (a : Act) : Prop where
  shut : (e.breaker endpoint).Shut now
  rejects : ∀ id supplier, a.Asks id supplier endpoint →
    (e.act now a).1 = .finished [(id,.error (.of (.circuitOpen endpoint
      (some (Quantity.toNumber ((e.breaker endpoint).openUntil - now))))))] ∧
    ∀ n, (e.act now a).2.calls.get? n = e.calls.get? n
  remaining : Quantity.zero < (e.breaker endpoint).openUntil - now
  stays : a ≠ .control (.reset endpoint) → ((e.act now a).2.breaker endpoint).phase = .opened ∧
    (e.breaker endpoint).openUntil ≤ ((e.act now a).2.breaker endpoint).openUntil
  unmoved : a ≠ .control (.reset endpoint) → a ≠ .control (.forceOpen endpoint) →
    ((e.act now a).2.breaker endpoint).openUntil = (e.breaker endpoint).openUntil

omit [Quantity τ] [Quantity.Ordered τ] in
theorem Fit.nextFree [Quantity τ] (fit : e.Fit) (n : Nat) : (e.calls.erase e.next).get? n = e.calls.get? n := by
  rw [Assoc.get?_erase]
  split
  · rename_i same
    subst same
    exact (Option.eq_none_iff_forall_ne_some.mpr fun c found => Nat.lt_irrefl _ (fit.numbered _ c found)).symm
  · rfl

omit [Quantity τ] [Quantity.Ordered τ] in
theorem mayControl {a : Act} {l : Breaker.Liberty} (allowed : a.may endpoint l) : l = .enter ∨
    l = .force ∧ a = .control (.forceOpen endpoint) ∨ l = .reset ∧ a = .control (.reset endpoint) := by
  cases a with
  | call | execute => exact .inl allowed.2
  | finish => exact allowed.elim
  | control c =>
    obtain ⟨rfl,allowed⟩ := allowed
    cases c with
    | forceOpen endpoint => exact .inr (.inl ⟨allowed,rfl⟩)
    | reset endpoint => exact .inr (.inr ⟨allowed,rfl⟩)
    | _ => exact allowed.elim

theorem actKeeps (fit : e.Fit) {a : Act} (resetless : a ≠ .control (.reset endpoint))
    (bounded : (e.breaker endpoint).Bounded now) (shut : (e.breaker endpoint).Shut now) :
    Breaker.Keeps (a.may endpoint) (e.breaker endpoint) ((e.act now a).2.breaker endpoint) := by
  refine Breaker.chainKeeps ((actGoes fit now a).endpoints endpoint) (fun resets => ?_) bounded shut
  rcases mayControl resets with bad | ⟨bad,-⟩ | ⟨-,same⟩
  · cases bad
  · cases bad
  · exact resetless same

theorem shutCloses (fit : e.Fit) (bounded : (e.breaker endpoint).Bounded now)
    (shut : (e.breaker endpoint).Shut now) (a : Act) : e.Closes endpoint now a := by
  have early : ¬ (e.breaker endpoint).Overdue now := fun due => shut.2 due.2
  have remaining : Quantity.zero < (e.breaker endpoint).openUntil - now := Quantity.Ordered.gap shut.2
  refine ⟨shut,fun id supplier asks => ?_,remaining,fun resetless => ?_,fun resetless forceless => ?_⟩
  · have rejected : (((e.breaker endpoint).look now).2.enter now).1 =
        .rejected (some ((e.breaker endpoint).openUntil - now)) := by
      rw [Breaker.lookSame early]
      simp only [Breaker.enter,shut.1,Quantity.greatest,if_pos remaining]
    obtain ⟨l,-,ran⟩ := asksDecides asks (.inr early)
    rw [ran,rejected]
    exact ⟨rfl,fit.nextFree⟩
  · have keeps := actKeeps fit resetless bounded shut
    exact ⟨keeps.opened,keeps.longer⟩
  · refine (actKeeps fit resetless bounded shut).unmoved fun forces => ?_
    rcases mayControl forces with bad | ⟨-,same⟩ | ⟨bad,-⟩
    · cases bad
    · exact forceless same
    · cases bad

/-! Along a run. -/

theorem afterBounded (fit : e.Fit) {run : List (τ × Act)} {later : List τ}
    (ordered : (run.map (·.1) ++ later).Pairwise (· ≤ ·))
    (bounded : ∀ t ∈ run.map (·.1) ++ later, (e.breaker endpoint).Bounded t) :
    ∀ t ∈ later, ((e.after run).breaker endpoint).Bounded t := by
  induction run generalizing e with
  | nil => exact bounded
  | cons m rest ih =>
    obtain ⟨first,ordered⟩ := List.pairwise_cons.mp ordered
    have goes := actGoes fit m.1 m.2
    have here := Breaker.chainBounded (goes.endpoints endpoint) (bounded m.1 List.mem_cons_self)
    exact ih (goes.fit fit) ordered fun t mem => here.onward (first t mem)

theorem afterKeeps (fit : e.Fit) {run : List (τ × Act)} (ordered : (run.map (·.1)).Pairwise (· ≤ ·))
    (bounded : ∀ t ∈ run.map (·.1), (e.breaker endpoint).Bounded t)
    (resetless : ∀ m ∈ run, m.2 ≠ .control (.reset endpoint)) (opened : (e.breaker endpoint).phase = .opened)
    (early : ∀ t ∈ run.map (·.1), ¬ (e.breaker endpoint).openUntil ≤ t) :
    Breaker.Keeps (fun _ => True) (e.breaker endpoint) ((e.after run).breaker endpoint) := by
  induction run generalizing e with
  | nil => exact .same opened rfl
  | cons m rest ih =>
    obtain ⟨first,ordered⟩ := List.pairwise_cons.mp ordered
    have goes := actGoes fit m.1 m.2
    have keeps := actKeeps fit (resetless m List.mem_cons_self) (bounded m.1 List.mem_cons_self)
      ⟨opened,early m.1 List.mem_cons_self⟩
    have here := Breaker.chainBounded (goes.endpoints endpoint) (bounded m.1 List.mem_cons_self)
    have later := ih (goes.fit fit) ordered (fun t mem => here.onward (first t mem))
      (fun k mem => resetless k (List.mem_cons_of_mem _ mem)) keeps.opened fun t mem reached =>
        early t (List.mem_cons_of_mem _ mem) (Quantity.Ordered.trans keeps.longer reached)
    exact ⟨later.opened,Quantity.Ordered.trans keeps.longer later.longer,fun bad => absurd trivial bad⟩

/-- In every run on a clock that never goes back, from when a circuit is open until the clock has reached its
time, unless it is reset: the circuit is still open, until no earlier a time, and turns calls away. -/
theorem openCloses (rule : BreakerRule τ) (meter : Option (Meter τ)) (service : Service τ)
    {first before : List (τ × Act)} {now : τ}
    (ordered : (first.map (·.1) ++ (before.map (·.1) ++ [now])).Pairwise (· ≤ ·)) {endpoint : String}
    (opened : (((create ⟨.create rule,meter⟩ service).after first).breaker endpoint).phase = .opened)
    (resetless : ∀ m ∈ before, m.2 ≠ .control (.reset endpoint))
    (early : ¬ (((create ⟨.create rule,meter⟩ service).after first).breaker endpoint).openUntil ≤ now) (a : Act) :
    (((create ⟨.create rule,meter⟩ service).after first).breaker endpoint).openUntil ≤
        (((create ⟨.create rule,meter⟩ service).after (first ++ before)).breaker endpoint).openUntil ∧
      ((create ⟨.create rule,meter⟩ service).after (first ++ before)).Closes endpoint now a := by
  have closed (t : τ) : ((create ⟨.create rule,meter⟩ service).breaker endpoint).Bounded t := nofun
  have fit := afterFit (createFit rule meter service) first
  have bounded := afterBounded (createFit rule meter service) ordered fun t _ => closed t
  rw [afterAppend]
  generalize (create ⟨.create rule,meter⟩ service).after first = e at opened early fit bounded ⊢
  obtain ⟨-,ordered,-⟩ := List.pairwise_append.mp ordered
  obtain ⟨ordered',-,last⟩ := List.pairwise_append.mp ordered
  have keeps := afterKeeps fit ordered' (fun t mem => bounded t (List.mem_append_left _ mem)) resetless opened
    fun t mem reached => early (Quantity.Ordered.trans reached (last t mem now (List.mem_singleton.mpr rfl)))
  have bounded' := afterBounded fit ordered bounded now (List.mem_singleton.mpr rfl)
  exact ⟨keeps.longer,shutCloses (afterFit fit before) bounded' (keeps.shut ⟨opened,early⟩) a⟩

def exactRule : BreakerRule Rat := ⟨1,60,10,40⟩

def exactService : Service Rat := ⟨⟨0,0,0,0,none⟩,none,fun low _ => low⟩

theorem trippedCloses :
    let e := (create ⟨.create exactRule,none⟩ exactService).after
      [(1000,.call "early" "slow" "rpc"),(1000,.call "trip" "bad" "rpc"),(1001,.finish 1 .timedOut)]
    let d := (create ⟨.create exactRule,none⟩ exactService).after
      ([(1000,.call "early" "slow" "rpc"),(1000,.call "trip" "bad" "rpc"),(1001,.finish 1 .timedOut)] ++
        [(1002,.finish 0 (.returned .null)),(1003,.control (.forceOpen "rpc"))])
    (e.breaker "rpc").openUntil = 1011 ∧ (e.breaker "rpc").openUntil ≤ (d.breaker "rpc").openUntil ∧
      d.Closes "rpc" 1004 (.call "next" "fine" "rpc") := by
  refine ⟨by decide +kernel,?_⟩
  exact openCloses exactRule none exactService (by decide +kernel) (by decide +kernel) (by simp)
    (by decide +kernel) (.call "next" "fine" "rpc")

end Rehearsal.Exchange
end ReadThrough
