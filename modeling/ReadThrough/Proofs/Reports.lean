import ReadThrough.Meter

/-! What a sink makes of a report. Whether it takes an event does not depend on what it has added up, and
what only happens, with no amount of anything, is taken by every sink but one that refuses all. -/
namespace ReadThrough
variable {τ : Type} [Quantity τ]

namespace Exposition

theorem countWhole (x : Exposition τ) (name : String) {n : Int} (least : 0 ≤ n) : x.count name (.int n) =
    (.ok (),{ x with events := bump x.events name (Quantity.ofNumber (.whole n)) }) := by
  have positive : Number.lt (.whole n) (.whole 0) = false := by simpa [Number.lt] using least
  simp only [count,Value.number?,positive,Bool.false_eq_true,if_false]

theorem reportPlain (x : Exposition τ) {e : Event} (counted : e.name ∉ lookupNames) (events : e.name ≠ "size")
    (one : e.field? "count" = none) (still : e.field? "size" = none) : (x.report e).1 = .ok () := by
  rw [report,if_neg counted,if_neg events,one,still]
  simp only [Option.getD_none,x.countWhole e.name (Int.one_nonneg)]

end Exposition

namespace Meter

theorem reportExposed (e : Event) {m : Meter τ} {x : Exposition τ} (kind : m.sink = .exposition x) :
    report e m =
      ((x.report e).1.mapError Fault.of,{ m.note e with sink := .exposition (x.report e).2 }) := by
  unfold report
  rw [kind]
  dsimp only
  split
  · rename_i told
    rw [told]
    rfl
  · rename_i told
    rw [told]
    rfl

theorem reportPlain {m : Meter τ} (willing : m.sink ≠ .refusing) {e : Event}
    (counted : e.name ∉ Exposition.lookupNames) (events : e.name ≠ "size")
    (one : e.field? "count" = none) (still : e.field? "size" = none) :
    ∃ m', report e m = (.ok (),m') ∧ m'.sink ≠ .refusing := by
  cases kind : m.sink with
  | refusing => exact absurd kind willing
  | journal => exact ⟨m.note e,by simp only [report,kind],willing⟩
  | silent => exact ⟨m,by simp only [report,kind],willing⟩
  | exposition x =>
    refine ⟨{ m.note e with sink := .exposition (x.report e).2 },?_,nofun⟩
    rw [reportExposed e kind,x.reportPlain counted events one still]
    rfl

theorem reportCircuit {m : Meter τ} (willing : m.sink ≠ .refusing) (endpoint before after : String) :
    ∃ m', report (.circuit endpoint before after) m = (.ok (),m') ∧ m'.sink ≠ .refusing :=
  reportPlain willing (show "circuit_state_change" ∉ Exposition.lookupNames by decide)
    (show "circuit_state_change" ≠ "size" by decide) rfl rfl

theorem reportRetry {m : Meter τ} (willing : m.sink ≠ .refusing) (endpoint : String) (attempt : Int)
    (error : String) (delay : Number) :
    ∃ m', report (.retry endpoint attempt error delay) m = (.ok (),m') ∧ m'.sink ≠ .refusing :=
  reportPlain willing (show "upstream_retry" ∉ Exposition.lookupNames by decide)
    (show "upstream_retry" ≠ "size" by decide) rfl rfl

end Meter

end ReadThrough
