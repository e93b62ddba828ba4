import ReadThrough.Proofs.Cues
import ReadThrough.Proofs.Shut

/-! The cooldown by the history. Every failure shown to a half-open circuit doubles it, up to the ceiling of the
rule, and only a half-open circuit that is shown success, or a reset, takes it back to the base: so it is told
by how many such failures there were since. Whatever opens a circuit opens it for the cooldown it then has. -/
namespace ReadThrough

namespace Sighting
variable {τ : Type}

def restarts (x : Sighting τ) : Bool := x.cue = .reset ∨ x.cue = .shown .answered ∧ x.phase = .halfOpen

def relapses (x : Sighting τ) : Bool := x.cue = .shown .failed ∧ x.phase = .halfOpen

def relapsed (seen : List (Sighting τ)) : Nat := (since restarts seen).countP relapses

theorem relapsedSnoc (seen : List (Sighting τ)) (x : Sighting τ) :
    relapsed (seen ++ [x]) = if x.restarts then 0 else if x.relapses then relapsed seen + 1 else relapsed seen := by
  unfold relapsed
  rw [sinceSnoc]
  split
  · rfl
  · split <;> simp [*]

end Sighting

namespace Breaker
variable {τ : Type} [Quantity τ] {b b' : Breaker τ} {now : τ} {quiet : Prop} {c : Cue}

theorem Turns.cooldown (turns : b.Turns now c b') : b'.cooldown =
    if Sighting.restarts ⟨now,c,b.phase⟩ then b.rule.baseCooldown
    else if Sighting.relapses ⟨now,c,b.phase⟩ then Quantity.least (Quantity.double b.cooldown) b.rule.maxCooldown
    else b.cooldown := by
  cases turns with
  | rests rests unhanded undecided few =>
    have stays : Sighting.restarts ⟨now,c,b.phase⟩ = false ∧ Sighting.relapses ⟨now,c,b.phase⟩ = false := by
      by_cases half : b.phase = .halfOpen
      · rcases undecided half with rfl | rfl <;> exact ⟨rfl,rfl⟩
      · simp [Sighting.restarts,Sighting.relapses,half,unhanded.2]
    rw [stays.1,stays.2]
    exact rests.cooldown
  | closes half rule phase cooldown => simpa [Sighting.restarts,half] using cooldown
  | trips closed full rule opens => simpa [Sighting.restarts,Sighting.relapses,closed] using opens.cooldown
  | reopens half rule opens => simpa [Sighting.restarts,Sighting.relapses,half] using opens.cooldown
  | forced rule opens => exact opens.cooldown
  | reset rule phase cooldown => exact cooldown

theorem Turns.lasts (turns : b.Turns now c b') (opened : b'.phase = .opened)
    (opens : b.phase ≠ .opened ∨ c = .forced) : b'.openUntil = now + b'.cooldown := by
  cases turns with
  | rests rests unhanded =>
    rcases opens with unopened | forced
    · rcases rests.phase with same | ⟨-,half⟩
      · exact absurd (same ▸ opened) unopened
      · cases half.symm.trans opened
    · exact absurd forced unhanded.1
  | closes half rule phase => cases phase.symm.trans opened
  | trips closed full rule opens => rw [opens.lasts,opens.cooldown]
  | reopens half rule opens => rw [opens.lasts,opens.cooldown]
  | forced rule opens => rw [opens.lasts,opens.cooldown]
  | reset rule phase => cases phase.symm.trans opened

end Breaker

/-! Exact amounts. -/

theorem Quantity.leastExact (a b : Rat) : Quantity.least a b = min a b := by
  unfold Quantity.least
  rw [min_def]
  split <;> split <;> grind

def BreakerRule.cooldownAfter (rule : BreakerRule Rat) (relapses : Nat) : Rat :=
  if relapses = 0 then rule.baseCooldown else min (rule.baseCooldown * 2 ^ relapses) rule.maxCooldown

theorem BreakerRule.cooldownDoubles {rule : BreakerRule Rat} (cap : 0 < rule.maxCooldown) (relapses : Nat) :
    Quantity.least (Quantity.double (rule.cooldownAfter relapses)) rule.maxCooldown =
      rule.cooldownAfter (relapses + 1) := by
  have two : (Quantity.ofInt 2 : Rat) = 2 := rfl
  rw [Quantity.leastExact,Quantity.double,two]
  cases relapses with
  | zero => simp [cooldownAfter]
  | succ n =>
    have further : rule.maxCooldown ≤ rule.maxCooldown * 2 := le_mul_of_one_le_right cap.le one_le_two
    simp only [cooldownAfter,Nat.add_one_ne_zero,if_false]
    calc min (min (rule.baseCooldown * 2 ^ (n + 1)) rule.maxCooldown * 2) rule.maxCooldown
        = min (min (rule.baseCooldown * 2 ^ (n + 1) * 2) (rule.maxCooldown * 2)) rule.maxCooldown := by
          rw [min_mul_of_nonneg _ _ zero_le_two]
      _ = min (rule.baseCooldown * 2 ^ (n + 1) * 2) rule.maxCooldown := by
          rw [min_assoc,min_eq_right further]
      _ = min (rule.baseCooldown * 2 ^ (n + 1 + 1)) rule.maxCooldown := by
          rw [pow_succ _ (n + 1),mul_assoc]

theorem Breaker.becomesCooldown {rule : BreakerRule Rat} {b : Breaker Rat} {quiet : Prop}
    {seen : List (Sighting Rat)} (cap : 0 < rule.maxCooldown) (becomes : (create rule).Becomes quiet seen b) :
    b.cooldown = rule.cooldownAfter (Sighting.relapsed seen) := by
  induction becomes with
  | start => rfl
  | step before heeds ih =>
    rw [heeds.turns.cooldown,Sighting.relapsedSnoc,becomesRule before]
    split
    · rfl
    · split
      · rw [ih]
        exact BreakerRule.cooldownDoubles cap _
      · exact ih

namespace Rehearsal.Exchange

/-- In every run, whoever watches: the cooldown is the base after no failure in a half-open circuit since the
circuit last closed or was reset, and the base doubled by each of them after some, if the ceiling allows; and
whatever act opens a circuit, or forces it open once more, opens it for as long. -/
theorem cooldownTold (rule : BreakerRule Rat) (cap : 0 < rule.maxCooldown) (meter : Option (Meter Rat))
    (service : Service Rat) (run : List (Rat × Act)) (endpoint : String) :
    let e := (create ⟨.create rule,meter⟩ service).after run
    (e.breaker endpoint).cooldown = rule.cooldownAfter
        (Sighting.relapsed ((create ⟨.create rule,meter⟩ service).history endpoint run)) ∧
      ∀ now a, ((e.act now a).2.breaker endpoint).phase = .opened →
        (e.breaker endpoint).phase ≠ .opened ∨ a = .control (.forceOpen endpoint) →
        ((e.act now a).2.breaker endpoint).openUntil = now + ((e.act now a).2.breaker endpoint).cooldown := by
  intro e
  have becomes : (Breaker.create rule).Becomes _ _ (e.breaker endpoint) :=
    afterBecomes (createFit rule meter service) endpoint run
  refine ⟨Breaker.becomesCooldown cap becomes,fun now a opened opens => ?_⟩
  have turns := (actHeeds (afterFit (createFit rule meter service) run) now a endpoint).turns
  refine turns.lasts opened (opens.imp_right fun forces => ?_)
  rw [forces]
  exact if_pos rfl

def relapsing : List (Rat × Act) := [
  (0,.control (.failure "rpc")),(10,.call "probe" "bad" "rpc"),(11,.finish 0 .timedOut),
  (12,.control (.forceOpen "rpc")),(32,.control (.read "rpc" .phase)),(32,.control (.failure "rpc")),
  (72,.control (.read "rpc" .phase)),(72,.control (.failure "rpc"))]

theorem relapsesTold :
    let e := (create ⟨.create exactRule,none⟩ exactService).after relapsing
    (e.breaker "rpc").cooldown = exactRule.cooldownAfter 3 ∧
      ((e.act 100 (.control (.forceOpen "rpc"))).2.breaker "rpc").openUntil = 140 := by
  obtain ⟨told,lasts⟩ := cooldownTold exactRule (by decide +kernel) none exactService relapsing "rpc"
  have relapses : Sighting.relapsed
      ((create ⟨.create exactRule,none⟩ exactService).history "rpc" relapsing) = 3 := by decide +kernel
  refine ⟨relapses ▸ told,(lasts 100 (.control (.forceOpen "rpc")) ?_ (.inr rfl)).trans ?_⟩
  · decide +kernel
  · decide +kernel

end Rehearsal.Exchange
end ReadThrough
