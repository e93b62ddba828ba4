import ReadThrough.Breaker
import ReadThrough.Backoff
import ReadThrough.Meter

/-! The line to the ledger: one breaker per endpoint, and inside the breaker the retries of a call.
The breaker sees only the final outcome of a call, never its attempts. -/
namespace ReadThrough

structure Board (τ : Type) where
  rule : BreakerRule τ
  breakers : Assoc String (Breaker τ)
  changes : List (String × PhaseChange)
  deriving Repr

structure Line (τ : Type) where
  board : Board τ
  meter : Option (Meter τ)
  deriving Repr

structure Service (τ : Type) where
  backoff : Backoff τ
  limit : Option τ
  draw : τ → τ → τ

/-- An admitted call: the retries it may still make are counted from the attempts made. -/
structure Pursuit where
  endpoint : String
  retries : Int
  attempt : Nat
  deriving DecidableEq, Repr

inductive Progress (τ : Type) where
  | done (v : Value)
  | pause (delay : τ) (next : Pursuit)
  deriving Repr

structure BreakerState (τ : Type) where
  endpoint : String
  phase : Phase
  failures : Nat
  cooldown : τ
  openUntil : Option τ
  deriving Repr

namespace Board
variable {τ : Type} [Quantity τ]

omit [Quantity τ] in
def create (rule : BreakerRule τ) : Board τ := ⟨rule, .empty, []⟩

def breaker (b : Board τ) (endpoint : String) : Breaker τ :=
  (b.breakers.get? endpoint).getD (.create b.rule)

end Board

namespace Line
variable {τ : Type} [Quantity τ]

def touch (endpoint : String) : Op (Line τ) Unit :=
  Op.change (fun l =>
    { l with board := { l.board with
        breakers := l.board.breakers.put endpoint (l.board.breaker endpoint) } })

omit [Quantity τ] in
def metered (x : Op (Meter τ) Unit) : Op (Line τ) Unit := fun l =>
  match l.meter with
  | none => (.ok (), l)
  | some m =>
    match x m with
    | (r, m) => (r, { l with meter := some m })

omit [Quantity τ] in
def announce (endpoint : String) : Option PhaseChange → Op (Line τ) Unit
  | none => pure ()
  | some c => do
    Op.change (fun l =>
      { l with board := { l.board with changes := l.board.changes ++ [(endpoint, c)] } })
    metered (Meter.report (.circuit endpoint c.before.label c.after.label))

def turn {α : Type} (endpoint : String) (f : Breaker τ → α × Breaker τ) : Op (Line τ) α :=
  Op.step (fun l =>
    let (a, b) := f (l.board.breaker endpoint)
    (a, { l with board := { l.board with breakers := l.board.breakers.put endpoint b } }))

def shift (endpoint : String) (f : Breaker τ → Option PhaseChange × Breaker τ) :
    Op (Line τ) Unit := do
  let c ← turn endpoint f
  announce endpoint c

def phase (now : τ) (endpoint : String) : Op (Line τ) Phase := do
  shift endpoint (·.look now)
  let l ← Op.read
  pure (l.board.breaker endpoint).phase

/-- The circuit is looked at and entered at one moment. -/
def enter (now : τ) (endpoint : String) : Op (Line τ) Unit := do
  shift endpoint (·.look now)
  match ← turn endpoint (·.enter now) with
  | .admitted => pure ()
  | .rejected wait => Op.refuse (.circuitOpen endpoint (wait.map Quantity.toNumber))

def success (endpoint : String) : Op (Line τ) Unit := do
  shift endpoint (·.succeed)
  turn endpoint (fun b => ((), b.forgive))

def failure (now : τ) (endpoint : String) : Op (Line τ) Unit := shift endpoint (·.fail now)

def abandon (endpoint : String) : Op (Line τ) Unit := turn endpoint (fun b => ((), b.abandon))

def failureCount (now : τ) (endpoint : String) : Op (Line τ) Nat :=
  turn endpoint (fun b => let b := b.prune now; (b.failures.length, b))

def describe (now : τ) (endpoint : String) : Op (Line τ) (BreakerState τ) := do
  let phase ← phase now endpoint
  let failures ← failureCount now endpoint
  let l ← Op.read
  let b := l.board.breaker endpoint
  pure ⟨endpoint, phase, failures, b.cooldown, if phase = .opened then some b.openUntil else none⟩

def describeAll (now : τ) : List String → Op (Line τ) (List (BreakerState τ))
  | [] => pure []
  | endpoint :: rest => do
    let first ← describe now endpoint
    let others ← describeAll now rest
    pure (first :: others)

def resetAll : List String → Op (Line τ) Unit
  | [] => pure ()
  | endpoint :: rest => do
    shift endpoint (·.reset)
    resetAll rest

/-- Ends an admitted call with an error. An error that no retry can mend proves that the endpoint
answers; a cancelled call proves nothing. -/
def endWith {α : Type} (now : τ) (endpoint : String) (error : Fault) : Op (Line τ) α := do
  if error.isCancelled then abandon endpoint
  else if error.isRetryable then failure now endpoint
  else success endpoint
  Op.fail error

def begin (service : Service τ) (now : τ) (endpoint : String) : Op (Line τ) Pursuit := do
  touch endpoint
  enter now endpoint
  let l ← Op.read
  let probing := (l.board.breaker endpoint).probing
  pure ⟨endpoint, if probing then 0 else service.backoff.retries, 0⟩

def advance (service : Service τ) (now : τ) (p : Pursuit) (a : Attempt) :
    Op (Line τ) (Progress τ) :=
  let failed (raw : Fault) : Op (Line τ) (Progress τ) :=
    match ({ service.backoff with retries := p.retries } : Backoff τ).decide service.limit
        service.draw p.attempt raw with
    | .error why => endWith now p.endpoint (.of why)
    | .ok (.giveUp error) => endWith now p.endpoint error
    | .ok (.again error delay) => do
      let hook := metered (τ := τ) (Meter.report
        (.retry p.endpoint (p.attempt + 1) error.label (Quantity.toNumber delay)))
      match ← Op.attempt hook with
      | .ok () => pure (.pause delay { p with attempt := p.attempt + 1 })
      | .error e => endWith now p.endpoint e
  match a with
  | .returned v => do
    success p.endpoint
    pure (.done v)
  | .cancelled => endWith now p.endpoint (.of .cancelled)
  | .timedOut => failed Fault.timeUp
  | .raised raw => failed raw

end Line

end ReadThrough
