import ReadThrough.Proofs.Purge
import ReadThrough.Proofs.Unseen

/-! Calls that stray. A call strays if it ends and shows its circuit something after the cooldown has
passed, before anyone has found the circuit half open. A run in which none strays hides every diagnosis;
right before one that does, a look at the circuit decides how the next calls fare. -/
namespace ReadThrough

namespace Breaker
variable {τ : Type} [Quantity τ] {b : Breaker τ} {now : τ} {s : Sign}

def Steady (b : Breaker τ) (now : τ) : Prop :=
  let b₁ := (b.look now).2
  (b₁.enter now).1 = .admitted → (((b₁.enter now).2.look now).2.enter now).1 = .admitted

def Lasts (b : Breaker τ) (now : τ) : Prop :=
  ¬ now + Quantity.least (Quantity.double b.cooldown) b.rule.maxCooldown ≤ now

end Breaker

namespace Line
variable {τ : Type} [Quantity τ] {l : Line τ}

theorem advanceQuiet (service : Service τ) (now : τ) (p : Pursuit) (a : Attempt) (quiet : l.Quiet)
    (shows : p.sign service a ≠ .nothing) :
    (advance service now p a l).2.board.breaker p.endpoint =
      (l.board.breaker p.endpoint).heed now (p.sign service a) := by
  obtain ⟨l',done,at'⟩ := followQuiet now p (upshot service p a) quiet
  unfold Pursuit.sign at *
  rw [advanceFollows,done,at']
  cases came : upshot service p a with
  | brought v => rfl
  | ended error => rfl
  | again error delay =>
    rw [came] at shows
    exact absurd rfl shows

end Line

namespace Coordinator
variable {τ : Type} [Quantity τ] {now : τ} {rule : BreakerRule τ} {c c' : Coordinator τ}

/-! What the end of a task leaves alone. -/

theorem concludeBoard (c : Coordinator τ) (now : τ) (n : Nat) (t : Task τ) (result : Except Fault Value) :
    (c.conclude now n t result).2.board = c.board := by
  have counted (success : Bool) : Op.Moves (fun c c' : Coordinator τ => c'.board = c.board)
      (metered (Meter.recordRevalidation t.key success)) := Op.movesWithin fun _ _ => rfl
  have written (data : Value) : Op.Moves (fun c c' : Coordinator τ => c'.board = c.board)
      (writeResult now t data) := by
    refine Op.movesBind Op.movesRead fun c => ?_
    split
    · exact Op.movesBind (Op.movesLift _) fun _ => Op.movesBind (Op.movesWithin fun _ _ => rfl) fun _ =>
        Op.movesPure _
    · exact Op.movesBind (Op.movesWithin fun _ _ => rfl) fun _ => Op.movesPure _
  unfold conclude
  cases t.purpose with
  | fetch =>
    cases result with
    | error e => rfl
    | ok data =>
      refine Op.movesView (·.board) (x := completeFetch now t data) ?_ c
      unfold completeFetch
      split
      · exact Op.movesPure _
      · exact Op.movesBind (written data) fun _ => Op.movesPure _
  | refresh =>
    cases result with
    | error e =>
      refine Op.movesView (·.board) (x := failRefresh t e) ?_ c
      unfold failRefresh
      split
      · exact Op.movesPure _
      · exact counted false
    | ok data =>
      refine Op.movesView (·.board) (x := completeRefresh now t data) ?_ c
      unfold completeRefresh
      split
      · exact Op.movesPure _
      · refine Op.movesBind (fun c => written data c) fun done => ?_
        cases done with
        | ok u => exact Op.movesBind (Op.movesChange fun _ => rfl) fun _ => counted true
        | error e => exact counted false

/-! Deeds that show something. -/

/-- What a deed shows the circuit at the endpoint, where it ends a call through it. -/
def Shows (c : Coordinator τ) (endpoint : String) (s : Sign) : Deed τ → Prop
  | .advance n a => ∃ t p, c.tasks.get? n = some t ∧ t.pursuit = some p ∧ p.endpoint = endpoint ∧
      p.sign c.service a = s
  | .settle e a => e = endpoint ∧ a.sign = s
  | _ => False

theorem Alike.quiet (alike : Alike now rule c c') : c.line.Quiet := by
  intro m attached
  obtain ⟨m₁,_,attached₁,_,meters⟩ := alike.lines.meters
  cases attached.symm.trans attached₁
  exact meters.willing

theorem Alike.shows (alike : Alike now rule c c') {endpoint : String} {s : Sign} {d : Deed τ}
    (shows : c'.Shows endpoint s d) : c.Shows endpoint s d := by
  cases d with
  | advance n a =>
    rw [Shows,alike.tasks,alike.service] at shows
    exact shows
  | settle e a => exact shows
  | fetch | leave | begin | call => exact shows

omit [Quantity τ] in
theorem onLineQuiet {α : Type} {x : Op (Line τ) α} {r : Except Fault α} {l : Line τ} (quiet : c.line.Quiet)
    (done : x c.line = (r,l)) (still : l.Quiet) :
    ∃ c', onLine x c = (r,c') ∧ c'.line.Quiet ∧ c'.board = l.board := by
  have ran : onLine x c = (r,(onLine x c).2) := Prod.ext (congrArg Prod.fst done :) rfl
  refine ⟨_,ran,?_,(congrArg (·.2.board) done :)⟩
  intro m attached
  have kept : (x c.line).2.meter.getD c.store.meter = m := Option.some.inj attached
  rw [done] at kept
  cases hears : l.meter with
  | none =>
    rw [hears] at kept
    exact quiet m (congrArg some kept)
  | some m' =>
    rw [hears] at kept
    exact still m (hears.trans (congrArg some kept))

theorem actHeeds {endpoint : String} {s : Sign} {d : Deed τ} (quiet : c.line.Quiet)
    (shown : c.Shows endpoint s d) (shows : s ≠ .nothing) :
    (c.act now d).2.board.breaker endpoint = (c.board.breaker endpoint).heed now s := by
  cases d with
  | fetch | leave | begin | call => exact shown.elim
  | settle e a =>
    obtain ⟨rfl,rfl⟩ := shown
    obtain ⟨r,l,settled,still,at'⟩ := Rehearsal.Exchange.settleQuiet e now a quiet
    obtain ⟨c₁,done,-,board⟩ := onLineQuiet quiet settled still
    have ended : (c.act now (.settle e a)).2 = c₁ := congrArg Prod.snd done
    rw [ended,board]
    exact at'
  | advance n a =>
    obtain ⟨t,p,found,pursued,rfl,rfl⟩ := shown
    have heeded := Line.advanceQuiet c.service now p a quiet shows
    change (c.advance now n a).2.board.breaker p.endpoint = _
    unfold advance
    rw [found]
    dsimp only
    rw [pursued]
    dsimp only
    cases done : onLine (Line.advance c.service now p a) c with
    | mk r c₁ =>
      have board : (Line.advance c.service now p a c.line).2.board = c₁.board :=
        (congrArg (·.2.board) done :)
      rw [board] at heeded
      rcases r with e | v | ⟨delay,next⟩
      · exact (concludeBoard c₁ now n t _ ▸ heeded :)
      · exact (concludeBoard c₁ now n t _ ▸ heeded :)
      · exact heeded

def tries (endpoint : String) (now : τ) : List (τ × (Deed τ ⊕ Diagnosis τ)) :=
  [(now,.inl (.call endpoint)),(now,.inl (.call endpoint))]

/-- One look at the circuit right before the deed changes how it and two calls after it are answered. -/
def Tells (c : Coordinator τ) (endpoint : String) (now : τ) (d : Deed τ) : Prop :=
  (c.play ((now,.inr (.phase endpoint)) :: (now,.inl d) :: tries endpoint now)).1 ≠
    (c.play ((now,.inl d) :: tries endpoint now)).1

def mended : List (Number × (Deed Number ⊕ Diagnosis Number)) := [
  (.whole 1000,.inl (.call "rpc")),(.whole 1000,.inl (.settle "rpc" .timedOut)),(.whole 1010,.inr .state),
  (.whole 1010,.inl (.call "rpc")),(.whole 1011,.inr (.failures "rpc")),
  (.whole 1011,.inl (.settle "rpc" (.returned (.int 7)))),(.whole 1012,.inl (.call "rpc")),
  (.whole 1012,.inl (.call "rpc")),(.whole 1012,.inl (.settle "rpc" .timedOut))]

end Coordinator

end ReadThrough
