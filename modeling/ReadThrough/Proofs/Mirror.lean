import ReadThrough.Proofs.Traffic
import ReadThrough.Proofs.Twin

/-! One endpoint on two lines. What is done at an endpoint depends on its own breaker alone, and on whether
those who watch take what they are told; so it goes the same on two lines that agree on these, and what is
done at other endpoints touches neither. -/
namespace ReadThrough
open Relation
variable {τ : Type} [Quantity τ]

namespace Line

theorem quietCounted {l l' : Line τ} (same : l'.counters = l.counters) : l'.Quiet ↔ l.Quiet := by
  have refuses (l : Line τ) : l.Quiet ↔ ∀ m, l.counters = some m → m.sink ≠ .refusing := by
    unfold Quiet counters
    cases l.meter with
    | none => simp
    | some m => cases kind : m.sink <;> simp [Meter.bare,Sink.bare,kind]
  rw [refuses l',refuses l,same]

theorem refusesReport {m : Meter τ} (refusing : m.sink = .refusing) (e : Event) :
    Meter.report e m = (.error (.of .noDestination),m) := by
  unfold Meter.report
  rw [refusing]

/-! Two lines that agree at an endpoint. -/

structure Agree (endpoint : String) (l l' : Line τ) : Prop where
  breaker : l.board.breaker endpoint = l'.board.breaker endpoint
  quiet : l.Quiet ↔ l'.Quiet

variable {endpoint : String}

theorem turnMirrors {α : Type} (f : Breaker τ → α × Breaker τ) :
    Op.Twin (Agree endpoint) (turn endpoint f) := fun l l' agree => by
  refine ⟨?_,⟨?_,agree.quiet⟩⟩
  · change Except.ok (f (l.board.breaker endpoint)).1 = .ok (f (l'.board.breaker endpoint)).1
    rw [agree.breaker]
  · rw [turnAt,turnAt,agree.breaker]

theorem touchMirrors : Op.Twin (Agree endpoint) (touch (τ := τ) endpoint) := fun l l' agree =>
  ⟨rfl,⟨by rw [touchAt,touchAt,agree.breaker],agree.quiet⟩⟩

theorem reportTold {e : Event} (taken : ∀ m : Meter τ, m.sink ≠ .refusing → (Meter.report e m).1 = .ok ())
    (l : Line τ) : l.Quiet ∧ (metered (Meter.report e) l).1 = .ok () ∨
      ¬ l.Quiet ∧ (metered (Meter.report e) l).1 = .error (.of .noDestination) := by
  unfold metered
  cases attached : l.meter with
  | none => exact .inl ⟨fun m same => absurd (attached.symm.trans same) nofun,rfl⟩
  | some m =>
    dsimp only
    by_cases refusing : m.sink = .refusing
    · refine .inr ⟨fun quiet => quiet m attached refusing,?_⟩
      rw [refusesReport refusing]
    · refine .inl ⟨fun m' same => ?_,taken m refusing⟩
      rw [attached] at same
      cases same
      exact refusing

theorem reportQuiet (e : Event) (l : Line τ) : (metered (Meter.report e) l).2.Quiet ↔ l.Quiet :=
  quietCounted (Op.movesView counters (reportCounted e) l)

theorem reportMirrors {e : Event} (taken : ∀ m : Meter τ, m.sink ≠ .refusing → (Meter.report e m).1 = .ok ()) :
    Op.Twin (Agree endpoint) (metered (τ := τ) (Meter.report e)) := by
  intro l l' agree
  refine ⟨?_,⟨?_,?_⟩⟩
  · rcases reportTold taken l with ⟨quiet,answer⟩ | ⟨loud,answer⟩
    · rcases reportTold taken l' with ⟨-,answer'⟩ | ⟨loud',-⟩
      · rw [answer,answer']
      · exact absurd (agree.quiet.mp quiet) loud'
    · rcases reportTold taken l' with ⟨quiet',-⟩ | ⟨-,answer'⟩
      · exact absurd (agree.quiet.mpr quiet') loud
      · rw [answer,answer']
  · rw [meteredBreaker,meteredBreaker,agree.breaker]
  · rw [reportQuiet,reportQuiet,agree.quiet]

theorem announceMirrors (c : Option PhaseChange) : Op.Twin (Agree endpoint) (announce (τ := τ) endpoint c) := by
  cases c with
  | none => exact Op.twinPure _
  | some c =>
    refine Op.twinBind (Op.twinChange fun l l' agree => ⟨agree.breaker,agree.quiet⟩) fun _ => ?_
    refine reportMirrors fun m willing => ?_
    obtain ⟨m',told,-⟩ := Meter.reportCircuit willing endpoint c.before.label c.after.label
    rw [told]

theorem shiftMirrors (f : Breaker τ → Option PhaseChange × Breaker τ) :
    Op.Twin (Agree endpoint) (shift endpoint f) :=
  Op.twinBind (turnMirrors f) announceMirrors

theorem phaseMirrors (now : τ) : Op.Twin (Agree endpoint) (phase now endpoint) :=
  Op.twinBind (shiftMirrors _) fun _ =>
    Op.twinRead (fun l l' agree => by rw [agree.breaker]) fun _ => Op.twinPure _

theorem describeMirrors (now : τ) : Op.Twin (Agree endpoint) (describe now endpoint) :=
  Op.twinBind (phaseMirrors now) fun _ => Op.twinBind (turnMirrors _) fun _ =>
    Op.twinRead (fun l l' agree => by rw [agree.breaker]) fun _ => Op.twinPure _

theorem enterMirrors (now : τ) : Op.Twin (Agree endpoint) (enter now endpoint) := by
  refine Op.twinBind (shiftMirrors _) fun _ => Op.twinBind (turnMirrors _) fun a => ?_
  cases a with
  | admitted => exact Op.twinPure _
  | rejected wait => exact Op.twinFail _

theorem successMirrors : Op.Twin (Agree endpoint) (success (τ := τ) endpoint) :=
  Op.twinBind (shiftMirrors _) fun _ => turnMirrors _

theorem endWithMirrors {α : Type} (now : τ) (error : Fault) :
    Op.Twin (Agree endpoint) (endWith now endpoint error : Op (Line τ) α) := by
  unfold endWith
  split
  · exact Op.twinBind (turnMirrors _) fun _ => Op.twinFail _
  · split
    · exact Op.twinBind (shiftMirrors _) fun _ => Op.twinFail _
    · exact Op.twinBind successMirrors fun _ => Op.twinFail _

theorem followMirrors (now : τ) (p : Pursuit) (u : Upshot τ) : Op.Twin (Agree p.endpoint) (follow now p u) := by
  cases u with
  | brought v => exact Op.twinBind successMirrors fun _ => Op.twinPure _
  | ended error => exact endWithMirrors now error
  | again error delay =>
    have hook : Op.Twin (Agree p.endpoint) (Op.attempt (metered (τ := τ) (Meter.report
        (.retry p.endpoint (p.attempt + 1) error.label (Quantity.toNumber delay))))) :=
      Op.twinAttempt (reportMirrors fun m willing => by
        obtain ⟨m',told,-⟩ :=
          Meter.reportRetry willing p.endpoint (p.attempt + 1) error.label (Quantity.toNumber delay)
        rw [told])
    refine Op.twinBind hook fun told => ?_
    cases told with
    | ok u => exact Op.twinPure _
    | error f => exact endWithMirrors now f

end Line

namespace Rehearsal

theorem Control.runMirrors (now : τ) (c : Control) : Op.Twin (Line.Agree c.endpoint) (c.run now) := by
  cases c with
  | read endpoint r =>
    cases r with
    | phase => exact Op.twinBind (Line.phaseMirrors now) fun _ => Op.twinPure _
    | failures => exact Op.twinBind (Line.turnMirrors _) fun _ => Op.twinPure _
    | whole => exact Op.twinBind (Line.describeMirrors now) fun _ => Op.twinPure _
  | success endpoint => exact Line.successMirrors
  | failure endpoint => exact Line.shiftMirrors _
  | forceOpen endpoint => exact Line.shiftMirrors _
  | reset endpoint => exact Line.shiftMirrors _

theorem Control.runKeeps {r : Line τ → Line τ → Prop} (keeps : Line.Keeps r) (now : τ) (c : Control) :
    Op.Moves r (c.run now) := by
  cases c with
  | read endpoint about =>
    cases about with
    | phase => exact Op.movesBind (Line.phaseKeeps keeps now endpoint) fun _ => Op.movesPure _
    | failures => exact Op.movesBind (Line.turnKeeps keeps endpoint _) fun _ => Op.movesPure _
    | whole => exact Op.movesBind (Line.describeKeeps keeps now endpoint) fun _ => Op.movesPure _
  | success endpoint => exact Line.successKeeps keeps endpoint
  | failure endpoint => exact Line.shiftKeeps keeps endpoint _
  | forceOpen endpoint => exact Line.shiftKeeps keeps endpoint _
  | reset endpoint => exact Line.shiftKeeps keeps endpoint _

namespace Exchange

theorem settleMirrors (now : τ) (endpoint : String) (a : Attempt) :
    Op.Twin (Line.Agree endpoint) (settleBare now endpoint a) := by
  cases a with
  | returned v => exact Op.twinBind Line.successMirrors fun _ => Op.twinPure _
  | raised f => exact Line.endWithMirrors now f
  | timedOut => exact Line.endWithMirrors now _
  | cancelled => exact Line.endWithMirrors now _

theorem settleKeeps {r : Line τ → Line τ → Prop} (keeps : Line.Keeps r) (now : τ) (endpoint : String)
    (a : Attempt) : Op.Moves r (settleBare now endpoint a) := by
  cases a with
  | returned v => exact Op.movesBind (Line.successKeeps keeps endpoint) fun _ => Op.movesPure _
  | raised f => exact Line.endWithKeeps keeps now endpoint f
  | timedOut => exact Line.endWithKeeps keeps now endpoint _
  | cancelled => exact Line.endWithKeeps keeps now endpoint _

theorem actCounted (e : Exchange τ) (now : τ) (a : Act) : (e.act now a).2.line.counters = e.line.counters := by
  have asks {a : Act} {id supplier endpoint : String} (asks : a.Asks id supplier endpoint) :
      (e.act now a).2.line.counters = e.line.counters := by
    have kept := Op.movesView Line.counters
      (Op.movesBind (Line.touchKeeps Line.countedKeeps endpoint) fun _ =>
        Line.enterKeeps Line.countedKeeps now endpoint) e.line
    rw [asksEnters asks]
    rw [Op.bind_ok (show Line.touch endpoint e.line = (.ok (),(Line.touch endpoint e.line).2) from rfl)] at kept
    rcases entered : Line.enter now endpoint (Line.touch endpoint e.line).2 with ⟨f | u,l⟩ <;>
      (rw [entered] at kept; exact kept)
  cases a with
  | call id supplier endpoint => exact asks .call
  | execute id supplier endpoint => exact asks .execute
  | control c => exact Op.movesView Line.counters (c.runKeeps Line.countedKeeps now) e.line
  | finish n a =>
    cases found : e.calls.get? n with
    | none => simp only [act,found]
    | some c =>
      cases begun : c.pursuit with
      | none =>
        simp only [act,found,begun,Option.isSome_none,Bool.false_eq_true,if_false,advanceBare,onLine,Op.within]
        exact Op.movesView Line.counters (settleKeeps Line.countedKeeps now c.endpoint a) e.line
      | some p =>
        have kept := Op.movesView Line.counters (Line.advanceKeeps Line.countedKeeps e.service now p a) e.line
        simp only [act,found,begun,Option.isSome_some,if_true,advance,onLine,Op.within]
        rcases ran : Line.advance e.service now p a e.line with ⟨f | v | ⟨delay,next⟩,l⟩ <;>
          (rw [ran] at kept; exact kept)

end Exchange
end Rehearsal
end ReadThrough
