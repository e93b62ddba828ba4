import ReadThrough.Proofs.Reports
import ReadThrough.Proofs.Table
import ReadThrough.Rehearsal.Call

/-! Calls through one breaker. What a call's end shows is all that the breaker learns from it: that
the endpoint answered, that it failed, or nothing. A breaker whose changes nobody refuses to hear of
never fails to report, so every move has one effect on the breaker, stated here once. -/
namespace ReadThrough

inductive Sign where
  | answered
  | failed
  | nothing
  deriving DecidableEq, Repr

def Fault.sign (f : Fault) : Sign :=
  if f.isCancelled then .nothing else if f.isRetryable then .failed else .answered

def Attempt.sign : Attempt → Sign
  | .returned _ => .answered
  | .raised f => f.sign
  | .timedOut => Fault.timeUp.sign
  | .cancelled => .nothing

namespace Breaker
variable {τ : Type} [Quantity τ]

def heed (b : Breaker τ) (now : τ) : Sign → Breaker τ
  | .answered => b.succeed.2.forgive
  | .failed => (b.fail now).2
  | .nothing => b.abandon

omit [Quantity τ] in
@[simp] theorem moveToState (b : Breaker τ) (phase : Phase) : (b.moveTo phase).2 = { b with phase } := by
  unfold moveTo
  split
  · rename_i same; subst same; rfl
  · rfl

theorem lookState (b : Breaker τ) (now : τ) :
    (b.look now).2 = b ∨ (b.phase = .opened ∧ (b.look now).2 = { b with phase := .halfOpen }) := by
  unfold look
  split
  · rename_i due
    exact .inr ⟨due.1,moveToState b .halfOpen⟩
  · exact .inl rfl

theorem lookKeeps (b : Breaker τ) (now : τ) :
    (b.look now).2.probing = b.probing ∧ (b.look now).2.cooldown = b.cooldown ∧
      (b.phase ≠ .opened → (b.look now).2.phase = b.phase) := by
  rcases lookState b now with same | ⟨opened,turned⟩
  · simp [same]
  · simp [turned,opened]

theorem enterState (b : Breaker τ) (now : τ) :
    ((b.enter now).1 = .admitted ∧ b.phase = .closed ∧ (b.enter now).2 = b) ∨
    ((b.enter now).1 = .admitted ∧ b.phase = .halfOpen ∧ b.probing = false ∧
      (b.enter now).2 = { b with probing := true }) ∨
    ((∃ wait, (b.enter now).1 = .rejected wait) ∧ (b.phase = .halfOpen → b.probing = true) ∧
      b.phase ≠ .closed ∧ (b.enter now).2 = b) := by
  unfold enter
  cases b.phase with
  | closed => simp
  | opened => simp
  | halfOpen => cases b.probing <;> simp

theorem enterKeeps (b : Breaker τ) (now : τ) :
    (b.enter now).2.cooldown = b.cooldown ∧ (b.enter now).2.phase = b.phase := by
  rcases b.enterState now with ⟨-,-,same⟩ | ⟨-,-,-,raised⟩ | ⟨-,-,-,same⟩
  · simp [same]
  · simp [raised]
  · simp [same]

@[simp] theorem heedProbing (b : Breaker τ) (now : τ) (s : Sign) : (b.heed now s).probing = false := by
  cases s with
  | answered => simp only [heed,succeed,forgive]; split <;> simp
  | failed => simp only [heed,fail,trip]; split <;> (try split) <;> simp [prune]
  | nothing => rfl

theorem heedHalfOpen (b : Breaker τ) (now : τ) (halfOpen : b.phase = .halfOpen) :
    (b.heed now .answered).phase = .closed ∧ (b.heed now .failed).phase = .opened ∧
      (b.heed now .nothing).phase = .halfOpen ∧ (b.heed now .nothing).cooldown = b.cooldown := by
  simp [heed,succeed,forgive,fail,trip,abandon,halfOpen]

theorem heedMoves {b : Breaker τ} {now : τ} {s : Sign} (halfOpen : b.phase = .halfOpen)
    (moved : (b.heed now s).phase ≠ .halfOpen ∨ (b.heed now s).cooldown ≠ b.cooldown) :
    s = .answered ∧ (b.heed now s).phase = .closed ∨ s = .failed ∧ (b.heed now s).phase = .opened := by
  obtain ⟨closes,reopens,stays,cooldown⟩ := b.heedHalfOpen now halfOpen
  cases s with
  | answered => exact .inl ⟨rfl,closes⟩
  | failed => exact .inr ⟨rfl,reopens⟩
  | nothing => exact moved.elim (absurd stays) (absurd cooldown)

theorem heedElsewhere (b : Breaker τ) (now : τ) (s : Sign) (elsewhere : b.phase ≠ .halfOpen) :
    (b.heed now s).cooldown = b.cooldown ∧
      ((b.heed now s).phase = b.phase ∨ b.phase = .closed ∧ (b.heed now s).phase = .opened) := by
  cases s with
  | answered => simp [heed,succeed,forgive,elsewhere]
  | failed =>
    simp only [heed,fail,elsewhere,if_false]
    split
    · rename_i tripped
      refine ⟨?_,.inr ⟨tripped.1,?_⟩⟩
      · simp [trip]
        rfl
      · simp [trip]
    · exact ⟨rfl,.inl rfl⟩
  | nothing => exact ⟨rfl,.inl rfl⟩

end Breaker

namespace Line
variable {τ : Type} [Quantity τ]

@[simp] theorem turnAt {α : Type} (endpoint : String) (f : Breaker τ → α × Breaker τ) (l : Line τ) :
    (turn endpoint f l).2.board.breaker endpoint = (f (l.board.breaker endpoint)).2 := by
  simp [turn,Op.step,Board.breaker,Assoc.get?_put]

theorem touchAt (endpoint : String) (l : Line τ) :
    (touch endpoint l).2.board.breaker endpoint = l.board.breaker endpoint := by
  simp [touch,Op.change,Board.breaker,Assoc.get?_put]

def Quiet (l : Line τ) : Prop := ∀ m, l.meter = some m → m.sink ≠ .refusing

theorem announceQuiet (endpoint : String) (c : Option PhaseChange) {l : Line τ} (quiet : l.Quiet) :
    ∃ l', announce endpoint c l = (.ok (),l') ∧ l'.Quiet ∧
      l'.board.breaker endpoint = l.board.breaker endpoint := by
  cases c with
  | none => exact ⟨l,rfl,quiet,rfl⟩
  | some c =>
    let told : Board τ := { l.board with changes := l.board.changes ++ [(endpoint,c)] }
    cases attached : l.meter with
    | none =>
      refine ⟨{ l with board := told },?_,quiet,rfl⟩
      simp [announce,Op.bind_apply,Op.change,metered,attached,told]
    | some m =>
      obtain ⟨m',reported,still⟩ := Meter.reportCircuit (quiet m attached) endpoint c.before.label c.after.label
      refine ⟨⟨told,some m'⟩,?_,?_,rfl⟩
      · simp [announce,Op.bind_apply,Op.change,metered,attached,reported,told]
      · intro m₁ same
        cases same
        exact still

theorem shiftQuiet (endpoint : String) (f : Breaker τ → Option PhaseChange × Breaker τ) {l : Line τ}
    (quiet : l.Quiet) :
    ∃ l', shift endpoint f l = (.ok (),l') ∧ l'.Quiet ∧
      l'.board.breaker endpoint = (f (l.board.breaker endpoint)).2 := by
  have turned : turn endpoint f l =
      (.ok (f (l.board.breaker endpoint)).1,(turn endpoint f l).2) := rfl
  obtain ⟨l',told,still,same⟩ := announceQuiet endpoint (f (l.board.breaker endpoint)).1
    (show (turn endpoint f l).2.Quiet from quiet)
  refine ⟨l',?_,still,same.trans (turnAt endpoint f l)⟩
  rw [shift,Op.bind_ok turned]
  exact told

theorem enterQuiet (endpoint : String) (now : τ) {l : Line τ} (quiet : l.Quiet) :
    ∃ r l', (do touch endpoint; enter now endpoint) l = (r,l') ∧ l'.Quiet ∧
      l'.board.breaker endpoint = (((l.board.breaker endpoint).look now).2.enter now).2 ∧
      (r = .ok () ↔ (((l.board.breaker endpoint).look now).2.enter now).1 = .admitted) := by
  have touched : touch endpoint l = (.ok (),(touch endpoint l).2) := rfl
  obtain ⟨l₁,looked,quiet₁,at₁⟩ := shiftQuiet endpoint (·.look now)
    (show (touch endpoint l).2.Quiet from quiet)
  have turned : turn endpoint (·.enter now) l₁ =
      (.ok ((l₁.board.breaker endpoint).enter now).1,(turn endpoint (·.enter now) l₁).2) := rfl
  rw [touchAt] at at₁
  rw [Op.bind_ok touched,enter,Op.bind_ok looked,Op.bind_ok turned,← at₁]
  cases told : ((l₁.board.breaker endpoint).enter now).1 with
  | admitted => exact ⟨_,_,rfl,quiet₁,turnAt endpoint _ l₁,by simp⟩
  | rejected wait => exact ⟨_,_,rfl,quiet₁,turnAt endpoint _ l₁,by simp⟩

theorem successQuiet (endpoint : String) (now : τ) {l : Line τ} (quiet : l.Quiet) :
    ∃ l', success endpoint l = (.ok (),l') ∧ l'.Quiet ∧
      l'.board.breaker endpoint = (l.board.breaker endpoint).heed now .answered := by
  obtain ⟨l₁,done,quiet₁,at₁⟩ := shiftQuiet endpoint (·.succeed) quiet
  refine ⟨(turn endpoint (fun b => ((),b.forgive)) l₁).2,?_,quiet₁,?_⟩
  · rw [success,Op.bind_ok done]; rfl
  · rw [turnAt,at₁]; rfl

theorem endWithQuiet {α : Type} {endpoint : String} {now : τ} (error : Fault) {l : Line τ}
    (quiet : l.Quiet) :
    ∃ l', (endWith now endpoint error : Op (Line τ) α) l = (.error error,l') ∧ l'.Quiet ∧
      l'.board.breaker endpoint = (l.board.breaker endpoint).heed now error.sign := by
  unfold endWith Fault.sign
  split
  · exact ⟨_,rfl,quiet,turnAt endpoint (fun b => ((),b.abandon)) l⟩
  · split
    · obtain ⟨l₁,done,quiet₁,at₁⟩ := shiftQuiet endpoint (·.fail now) quiet
      exact ⟨l₁,Op.bind_ok done,quiet₁,at₁⟩
    · obtain ⟨l₁,done,quiet₁,at₁⟩ := successQuiet endpoint now quiet
      exact ⟨l₁,Op.bind_ok done,quiet₁,at₁⟩

theorem phaseQuiet (endpoint : String) (now : τ) {l : Line τ} (quiet : l.Quiet) :
    ∃ phase l', Line.phase now endpoint l = (.ok phase,l') ∧ l'.Quiet ∧
      l'.board.breaker endpoint = ((l.board.breaker endpoint).look now).2 := by
  obtain ⟨l',looked,still,at'⟩ := shiftQuiet endpoint (·.look now) quiet
  exact ⟨_,l',Op.bind_ok looked,still,at'⟩

theorem describeQuiet (endpoint : String) (now : τ) {l : Line τ} (quiet : l.Quiet) :
    (describe now endpoint l).2.Quiet ∧ (describe now endpoint l).2.board.breaker endpoint =
      ((l.board.breaker endpoint).look now).2.prune now := by
  obtain ⟨phase,l₁,looked,quiet₁,at₁⟩ := phaseQuiet endpoint now quiet
  rw [describe,Op.bind_ok looked,← at₁]
  exact ⟨quiet₁,turnAt endpoint (fun b => ((b.prune now).failures.length,b.prune now)) l₁⟩

end Line

namespace Rehearsal

inductive Reading where
  | phase
  | failures
  | whole
  deriving DecidableEq, Repr

inductive Move where
  | call (id supplier : String)
  | finish (call : Nat) (a : Attempt)
  | read (r : Reading)
  deriving Repr

namespace Exchange
variable {τ : Type} [Quantity τ]

def breaker (e : Exchange τ) (endpoint : String) : Breaker τ := e.line.board.breaker endpoint

def move (endpoint : String) (now : τ) (m : Move) (e : Exchange τ) : Exchange τ :=
  match m with
  | .call id supplier =>
    let (n, e) := e.add ⟨id, supplier, endpoint, none⟩
    (e.beginBare now n).2
  | .finish n a => (e.advanceBare now n a).2
  | .read .phase => (onLine (Line.phase now endpoint) e).2
  | .read .failures => (onLine (Line.failureCount now endpoint) e).2
  | .read .whole => (onLine (Line.describe now endpoint) e).2

structure Plain (endpoint : String) (e : Exchange τ) : Prop where
  quiet : e.line.Quiet
  own : ∀ n c, e.calls.get? n = some c → c.endpoint = endpoint
  fresh : ∀ n c, e.calls.get? n = some c → n < e.next

theorem settleQuiet (endpoint : String) (now : τ) (a : Attempt) {l : Line τ}
    (quiet : l.Quiet) :
    ∃ r l', settleBare now endpoint a l = (r,l') ∧ l'.Quiet ∧
      l'.board.breaker endpoint = (l.board.breaker endpoint).heed now a.sign := by
  cases a with
  | returned v =>
    obtain ⟨l₁,done,quiet₁,at₁⟩ := Line.successQuiet endpoint now quiet
    exact ⟨_,l₁,Op.bind_ok done,quiet₁,at₁⟩
  | raised f => exact ⟨_,Line.endWithQuiet f quiet⟩
  | timedOut => exact ⟨_,Line.endWithQuiet Fault.timeUp quiet⟩
  | cancelled => exact ⟨_,Line.endWithQuiet (.of .cancelled) quiet⟩

theorem beginMoves {endpoint : String} (now : τ) {e : Exchange τ} {n : Nat} {c : Call}
    (quiet : e.line.Quiet) (found : e.calls.get? n = some c) (own : c.endpoint = endpoint) :
    let b := ((e.breaker endpoint).look now).2
    ∃ l : Line τ, l.Quiet ∧ l.board.breaker endpoint = (b.enter now).2 ∧
      ((b.enter now).1 = .admitted ∧ (e.beginBare now n).2 = { e with line := l } ∨
       (b.enter now).1 ≠ .admitted ∧
        (e.beginBare now n).2 = { e with line := l, calls := e.calls.erase n }) := by
  subst own
  obtain ⟨r,l,entered,still,at',decided⟩ :=
    Line.enterQuiet c.endpoint now quiet
  refine ⟨l,still,at',?_⟩
  simp only [beginBare,found,onLine,Op.within,entered]
  cases r with
  | ok u => exact .inl ⟨decided.mp rfl,rfl⟩
  | error f => exact .inr ⟨fun admitted => (by cases decided.mpr admitted),rfl⟩

theorem callMoves {endpoint id supplier : String} {now : τ} {e e' : Exchange τ} {b : Breaker τ}
    (plain : e.Plain endpoint) (looked : ((e.breaker endpoint).look now).2 = b)
    (moved : e.move endpoint now (.call id supplier) = e') : e'.Plain endpoint ∧
      e'.next = e.next + 1 ∧ e'.breaker endpoint = (b.enter now).2 ∧
      (e'.calls.has e.next = true ↔ (b.enter now).1 = .admitted) ∧
      ∀ n, n ≠ e.next → e'.calls.get? n = e.calls.get? n := by
  subst looked moved
  let c : Call := ⟨id,supplier,endpoint,none⟩
  have added : (e.calls.put e.next c).get? e.next = some c := by simp [Assoc.get?_put]
  have others : ∀ n, n ≠ e.next → (e.calls.put e.next c).get? n = e.calls.get? n :=
    fun n other => by simp [Assoc.get?_put,Ne.symm other]
  have own : ∀ n c', (e.calls.put e.next c).get? n = some c' →
      c'.endpoint = endpoint ∧ n < e.next + 1 := by
    intro n c' found
    by_cases new : n = e.next
    · subst new
      cases added.symm.trans found
      exact ⟨rfl,Nat.lt_succ_self _⟩
    · rw [others n new] at found
      exact ⟨plain.own n c' found,Nat.lt_succ_of_lt (plain.fresh n c' found)⟩
  obtain ⟨l,quiet,at',⟨admitted,same⟩ | ⟨rejected,same⟩⟩ :=
    beginMoves now (e := (e.add c).2) plain.quiet added rfl
  · have reached : e.move endpoint now (.call id supplier) = { (e.add c).2 with line := l } := same
    rw [reached]
    refine ⟨⟨quiet,fun n c' h => (own n c' h).1,fun n c' h => (own n c' h).2⟩,rfl,at',?_,others⟩
    exact ⟨fun _ => admitted,fun _ => by simp [add,Assoc.has,added]⟩
  · have reached : e.move endpoint now (.call id supplier) =
        { (e.add c).2 with line := l, calls := (e.add c).2.calls.erase e.next } := same
    have left : ∀ n c', ((e.add c).2.calls.erase e.next).get? n = some c' →
        c'.endpoint = endpoint ∧ n < e.next + 1 := fun n c' found => own n c' (Assoc.eraseFound found)
    rw [reached]
    refine ⟨⟨quiet,fun n c' h => (left n c' h).1,fun n c' h => (left n c' h).2⟩,rfl,at',?_,?_⟩
    · refine ⟨fun has => ?_,fun admitted => (rejected admitted).elim⟩
      simp [Assoc.has,Assoc.get?_erase] at has
    · intro n other
      rw [Assoc.get?_erase,if_neg (Ne.symm other)]
      exact others n other

theorem finishMoves {endpoint : String} {now : τ} {e e' : Exchange τ} {n : Nat} {c : Call} {a : Attempt}
    (plain : e.Plain endpoint) (found : e.calls.get? n = some c)
    (moved : e.move endpoint now (.finish n a) = e') : e'.Plain endpoint ∧
      e'.breaker endpoint = (e.breaker endpoint).heed now a.sign ∧
      e'.calls = e.calls.erase n ∧ e'.next = e.next := by
  subst moved
  obtain ⟨r,l,settled,quiet,at'⟩ := settleQuiet endpoint now a plain.quiet
  have reached : e.move endpoint now (.finish n a) = { e with line := l, calls := e.calls.erase n } := by
    simp only [move,advanceBare,found,onLine,Op.within,plain.own n c found,settled]
    rfl
  rw [reached]
  refine ⟨⟨quiet,fun m c' left => ?_,fun m c' left => ?_⟩,at',rfl,rfl⟩
  · exact plain.own m c' (Assoc.eraseFound left)
  · exact plain.fresh m c' (Assoc.eraseFound left)

theorem finishAbsent {endpoint : String} {now : τ} {e : Exchange τ} {n : Nat} {a : Attempt}
    (absent : e.calls.get? n = none) : e.move endpoint now (.finish n a) = e := by
  simp only [move,advanceBare,absent]

theorem readMoves {endpoint : String} {now : τ} {e e' : Exchange τ} {r : Reading}
    (plain : e.Plain endpoint) (moved : e.move endpoint now (.read r) = e') : e'.Plain endpoint ∧
      e'.calls = e.calls ∧ e'.next = e.next ∧
      (e'.breaker endpoint).probing = (e.breaker endpoint).probing ∧
      (e'.breaker endpoint).cooldown = (e.breaker endpoint).cooldown ∧
      ((e.breaker endpoint).phase ≠ .opened →
        (e'.breaker endpoint).phase = (e.breaker endpoint).phase) := by
  subst moved
  have kept := Breaker.lookKeeps (e.breaker endpoint) now
  cases r with
  | phase =>
    obtain ⟨phase,l,looked,quiet,at'⟩ := Line.phaseQuiet endpoint now plain.quiet
    have reached : e.move endpoint now (.read .phase) = { e with line := l } := by
      simp only [move,onLine,Op.within,looked]
    rw [reached]
    exact ⟨⟨quiet,plain.own,plain.fresh⟩,rfl,rfl,by simpa only [breaker,at'] using kept⟩
  | failures =>
    have at' : (e.move endpoint now (.read .failures)).breaker endpoint = (e.breaker endpoint).prune now :=
      Line.turnAt endpoint (fun b => ((b.prune now).failures.length,b.prune now)) e.line
    refine ⟨⟨plain.quiet,plain.own,plain.fresh⟩,rfl,rfl,?_⟩
    rw [at']
    exact ⟨rfl,rfl,fun _ => rfl⟩
  | whole =>
    obtain ⟨quiet,at'⟩ := Line.describeQuiet endpoint now plain.quiet
    refine ⟨⟨quiet,plain.own,plain.fresh⟩,rfl,rfl,?_⟩
    have pruned : (e.move endpoint now (.read .whole)).breaker endpoint =
      ((e.breaker endpoint).look now).2.prune now := at'
    rw [pruned]
    exact kept

end Exchange
end Rehearsal

end ReadThrough
