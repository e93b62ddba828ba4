import ReadThrough.Snapshot
import ReadThrough.Proofs.Seen

/-! Diagnoses of a running coordinator. A diagnosis may find a circuit half open and drop failures that
no longer count, and forgets old removals; it touches nothing else. So two coordinators of which only one
was diagnosed are alike, and what calls do answers the same to both and leaves them alike, as long as no
call ends at a circuit that only one of them has looked at. -/
namespace ReadThrough.Coordinator
variable {τ : Type}

def dress (c : Coordinator τ) (b : Board τ) (m : Meter τ) : Coordinator τ :=
  { c with board := b, store := { c.store with meter := m } }

def line (c : Coordinator τ) : Line τ := ⟨c.board,some c.store.meter⟩

variable [Quantity τ]

inductive Alike (now : τ) (rule : BreakerRule τ) : Coordinator τ → Coordinator τ → Prop where
  | of (c : Coordinator τ) {b b' : Board τ} {m m' : Meter τ}
      (lines : Line.Alike now rule (fun _ => False) ⟨b,some m⟩ ⟨b',some m'⟩) :
      Alike now rule (c.dress b m) (c.dress b' m')

variable {now : τ} {rule : BreakerRule τ} {c c' : Coordinator τ}

theorem Alike.lines (alike : Alike now rule c c') :
    Line.Alike now rule (fun _ => False) c.line c'.line := by
  cases alike with
  | of c lines => exact lines

theorem Alike.same (alike : Alike now rule c c') : c = c'.dress c.board c.store.meter := by
  cases alike with
  | of c lines => rfl

theorem Alike.tasks (alike : Alike now rule c c') : c'.tasks = c.tasks := by rw [alike.same]; rfl

theorem Alike.service (alike : Alike now rule c c') : c'.service = c.service := by rw [alike.same]; rfl

theorem Alike.level {later : τ} (alike : Alike now rule c c') :
    Alike later rule c c ∧ Alike later rule c' c' := by
  cases alike with
  | of c lines => exact ⟨.of c lines.level.1,.of c lines.level.2⟩

/-- What calls do: callers read through and leave, tasks begin and their attempts end, and calls through
a circuit are let through and end. -/
inductive Deed (τ : Type) where
  | fetch (caller : String) (raw : Value) (r : Request τ)
  | leave (caller : String)
  | begin (task : Nat)
  | advance (task : Nat) (a : Attempt)
  | call (endpoint : String)
  | settle (endpoint : String) (a : Attempt)

inductive Reply (τ : Type) where
  | answered (r : Except Fault Answer)
  | left (waited : Bool)
  | reported (r : Report τ)
  | admitted (r : Except Fault Unit)
  | settled (r : Except Fault Value)

inductive Diagnosis (τ : Type) where
  | state
  | metrics
  | health (given : Option (Thresholds τ))
  | breakers
  | phase (endpoint : String)
  | whole (endpoint : String)
  | failures (endpoint : String)

def act (c : Coordinator τ) (now : τ) : Deed τ → Reply τ × Coordinator τ
  | .fetch caller raw r => (fetch now caller raw r c).map .answered id
  | .leave caller => (c.leave caller).map .left id
  | .begin n => (c.begin now n).map .reported id
  | .advance n a => (c.advance now n a).map .reported id
  | .call endpoint => (onLine (do Line.touch endpoint; Line.enter now endpoint) c).map .admitted id
  | .settle endpoint a => (onLine (Rehearsal.Exchange.settleBare now endpoint a) c).map .settled id

def diagnose (now : τ) : Diagnosis τ → Op (Coordinator τ) Value
  | .state => snapshot now
  | .metrics => do
    let c ← Op.read
    pure (.record c.summary)
  | .health given => do
    let remarks ← health now given
    pure (.record (Remark.report remarks))
  | .breakers => do
    let found ← describeBreakers now
    pure (BreakerState.shownAll found)
  | .phase endpoint => do
    let phase ← onLine (Line.phase now endpoint)
    pure (.str phase.label)
  | .whole endpoint => do
    let found ← onLine (Line.describe now endpoint)
    pure found.shown
  | .failures endpoint => do
    let n ← onLine (Line.failureCount now endpoint)
    pure (.int n)

def play (c : Coordinator τ) : List (τ × (Deed τ ⊕ Diagnosis τ)) → List (Reply τ) × Coordinator τ
  | [] => ([],c)
  | (now,.inl d) :: rest => (play (c.act now d).2 rest).map ((c.act now d).1 :: ·) id
  | (now,.inr d) :: rest => play (diagnose now d c).2 rest

/-- All that counts is the same: what is stored, queued and under way, the cooldowns, the counters, and
every change told of but those of open circuits found half open. -/
structure Unmoved (c c' : Coordinator τ) : Prop where
  rest : c = c'.dress c.board c.store.meter
  cooldown : ∀ endpoint, (c.board.breaker endpoint).cooldown = (c'.board.breaker endpoint).cooldown
  changes : c.board.told = c'.board.told
  counters : c.store.meter.shown = c'.store.meter.shown

theorem Alike.unmoved (alike : Alike now rule c c') : c.Unmoved c' where
  rest := alike.same
  cooldown endpoint := (alike.lines.seen endpoint).cooldown
  changes := alike.lines.told
  counters := alike.lines.counters.shown

theorem Alike.onward {later : τ} (alike : Alike now rule c c')
    (onward : Quantity.Onward rule.window now later) : Alike later rule c c' := by
  cases alike with
  | of c lines =>
    refine .of c { lines with seen := fun e => (lines.seen e).onward ?_, even := nofun }
    rw [lines.ruled]
    exact onward

end ReadThrough.Coordinator
