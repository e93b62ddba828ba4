import ReadThrough.Proofs.Traffic

/-! No lock-out. The probe's mark is set where a call is let through a half-open circuit and cleared by every
call that ends, however it ends and whatever became of the circuit meanwhile. So it is never left behind:
where no call is under way there is none, and a circuit whose cooldown has passed lets the next call in. -/
namespace ReadThrough
variable {τ : Type} [Quantity τ]

theorem Breaker.enterFree {b : Breaker τ} {now : τ} (free : b.probing = false) (ready : b.phase ≠ .opened) :
    (b.enter now).1 = .admitted := by
  unfold enter
  cases phase : b.phase with
  | opened => exact absurd phase ready
  | closed => rfl
  | halfOpen => simp [free]

theorem Breaker.lookReady {b : Breaker τ} {now : τ} (reached : b.phase = .opened → b.openUntil ≤ now) :
    (b.look now).2.phase ≠ .opened := by
  by_cases due : b.Overdue now
  · rw [lookOverdue due]
    nofun
  · rw [lookSame due]
    exact fun opened => due ⟨opened,reached opened⟩

theorem Line.enterPhase (now : τ) (endpoint : String) (l : Line τ) :
    ((enter now endpoint l).2.board.breaker endpoint).phase =
      ((l.board.breaker endpoint).look now).2.phase := by
  refine Op.leaves (P := fun l' : Line τ => (l'.board.breaker endpoint).phase =
    ((l.board.breaker endpoint).look now).2.phase) ?_ fun _ l₁ found => ?_
  · rw [shiftBreaker]
  · refine Op.leaves (P := fun l' : Line τ => (l'.board.breaker endpoint).phase =
      ((l.board.breaker endpoint).look now).2.phase) ?_ fun admission l₂ kept => ?_
    · rw [turnAt,((l₁.board.breaker endpoint).enterKeeps now).2]
      exact found
    · cases admission <;> exact kept

namespace Rehearsal.Exchange
variable {e : Exchange τ} {now : τ} {a : Act} {id supplier endpoint : String}

/-- No probe is left behind at the endpoint: none at a closed circuit, none where no call is under way. Then
a call is let in once the circuit's time has come; if the meter refuses to hear of it, the call fails, and
every next one is let in. -/
structure Unlocked (e : Exchange τ) (endpoint : String) : Prop where
  closed : (e.breaker endpoint).phase = .closed → (e.breaker endpoint).probing = false
  idle : ¬ e.Busy endpoint → (e.breaker endpoint).probing = false
  admits : ∀ now a id supplier, ¬ e.Busy endpoint → e.line.Quiet → a.Asks id supplier endpoint →
    ((e.breaker endpoint).phase = .opened → (e.breaker endpoint).openUntil ≤ now) →
    (e.act now a).1 = .attempting supplier ∧ (e.act now a).2.Busy endpoint
  nextAdmits : ∀ now a id supplier, ¬ e.Busy endpoint → a.Asks id supplier endpoint →
    ((e.breaker endpoint).phase = .opened → (e.breaker endpoint).openUntil ≤ now) →
    (e.act now a).1 = .attempting supplier ∨ ∀ later a' id' supplier', a'.Asks id' supplier' endpoint →
      ((e.act now a).2.act later a').1 = .attempting supplier'

theorem Fit.idle (fit : e.Fit) (idle : ¬ e.Busy endpoint) : (e.breaker endpoint).probing = false :=
  Bool.eq_false_iff.mpr fun probing => idle (fit.probed endpoint probing)

theorem idleAdmits (fit : e.Fit) (idle : ¬ e.Busy endpoint)
    (told : e.line.Quiet ∨ ¬ (e.breaker endpoint).Overdue now) (asks : a.Asks id supplier endpoint)
    (reached : (e.breaker endpoint).phase = .opened → (e.breaker endpoint).openUntil ≤ now) :
    (e.act now a).1 = .attempting supplier ∧ (e.act now a).2.Busy endpoint := by
  have free := ((e.breaker endpoint).lookKeeps now).1.trans (fit.idle idle)
  have admitted : (((e.breaker endpoint).look now).2.enter now).1 = .admitted :=
    Breaker.enterFree free (Breaker.lookReady reached)
  obtain ⟨l,-,ran⟩ := asksDecides asks told
  rw [ran,admitted]
  exact ⟨rfl,e.next,_,Assoc.putSame _ _ _,rfl⟩

theorem refusedReady (idle : ¬ e.Busy endpoint) (asks : a.Asks id supplier endpoint)
    (due : (e.breaker endpoint).Overdue now) (refused : (e.act now a).1 ≠ .attempting supplier) :
    ((e.act now a).2.breaker endpoint).phase = .halfOpen ∧ ¬ (e.act now a).2.Busy endpoint := by
  have phase := Line.enterPhase now endpoint (Line.touch endpoint e.line).2
  rw [Line.touchAt,Breaker.lookOverdue (b := e.line.board.breaker endpoint) due] at phase
  rw [asksEnters asks] at refused ⊢
  rcases entered : Line.enter now endpoint (Line.touch endpoint e.line).2 with ⟨f | u,l⟩
  · rw [entered] at phase
    refine ⟨phase,?_⟩
    rintro ⟨n,c,found,own⟩
    exact idle ⟨n,c,Assoc.eraseFound found,own⟩
  · rw [entered] at refused
    exact absurd rfl refused

theorem fitUnlocked (fit : e.Fit) (endpoint : String) : e.Unlocked endpoint where
  closed closed := Bool.eq_false_iff.mpr fun probing => fit.sane endpoint probing closed
  idle := fit.idle
  admits _ _ _ _ idle quiet asks reached := idleAdmits fit idle (.inl quiet) asks reached
  nextAdmits now a id supplier idle asks reached := by
    by_cases due : (e.breaker endpoint).Overdue now
    · by_cases admitted : (e.act now a).1 = .attempting supplier
      · exact .inl admitted
      · obtain ⟨halfOpen,idle'⟩ := refusedReady idle asks due admitted
        refine .inr fun later a' id' supplier' asks' => ?_
        have fit' := (actGoes fit now a).fit fit
        exact (idleAdmits fit' idle' (.inr fun due => nomatch halfOpen.symm.trans due.1) asks'
          fun opened => nomatch halfOpen.symm.trans opened).1
    · exact .inl (idleAdmits fit idle (.inr due) asks reached).1

/-- In every run, whatever the meter makes of it. -/
theorem neverLockedOut (rule : BreakerRule τ) (meter : Option (Meter τ)) (service : Service τ)
    (run : List (τ × Act)) (endpoint : String) :
    ((create ⟨.create rule,meter⟩ service).after run).Unlocked endpoint :=
  fitUnlocked (afterFit (createFit rule meter service) run) endpoint

end Rehearsal.Exchange
end ReadThrough
