import ReadThrough.Quantity

/-! A circuit breaker. Closed, it counts recent failures and opens when there are too many; open, it
rejects every call until its cooldown has passed; half open, it lets one probe through, whose
outcome closes or reopens it. The breaker holds no clock: every step carries its moment. -/
namespace ReadThrough

inductive Phase where
  | closed
  | opened
  | halfOpen
  deriving DecidableEq, Repr

def Phase.label : Phase → String
  | .closed => "closed"
  | .opened => "open"
  | .halfOpen => "half_open"

structure BreakerRule (τ : Type) where
  threshold : Int
  window : τ
  baseCooldown : τ
  maxCooldown : τ
  deriving Repr

/-- `failures` holds the moments of the failures that still count, oldest first. -/
structure Breaker (τ : Type) where
  rule : BreakerRule τ
  phase : Phase
  failures : List τ
  cooldown : τ
  openUntil : τ
  probing : Bool
  deriving Repr

structure PhaseChange where
  before : Phase
  after : Phase
  deriving DecidableEq, Repr

/-- What a call is told. A rejection tells how long the circuit stays open, unless it only waits
for a probe. -/
inductive Admission (τ : Type) where
  | admitted
  | rejected (wait : Option τ)
  deriving Repr

namespace Breaker
variable {τ : Type} [Quantity τ]

def create (rule : BreakerRule τ) : Breaker τ :=
  ⟨rule, .closed, [], rule.baseCooldown, Quantity.zero, false⟩

omit [Quantity τ] in
def moveTo (b : Breaker τ) (phase : Phase) : Option PhaseChange × Breaker τ :=
  if b.phase = phase then (none, b) else (some ⟨b.phase, phase⟩, { b with phase })

def look (b : Breaker τ) (now : τ) : Option PhaseChange × Breaker τ :=
  if b.phase = .opened ∧ b.openUntil ≤ now then b.moveTo .halfOpen else (none, b)

/-- One moment stands for the look that goes before and for the wait that a rejection tells. Between two readings of a
clock the cooldown may end, and only then does the floor of the wait apply. -/
def enter (b : Breaker τ) (now : τ) : Admission τ × Breaker τ :=
  match b.phase with
  | .closed => (.admitted, b)
  | .opened => (.rejected (some (Quantity.greatest Quantity.zero (b.openUntil - now))), b)
  | .halfOpen => if b.probing then (.rejected none, b) else (.admitted, { b with probing := true })

def prune (b : Breaker τ) (now : τ) : Breaker τ :=
  { b with failures := b.failures.filter (fun t => decide (now - b.rule.window < t)) }

def trip (b : Breaker τ) (now : τ) : Option PhaseChange × Breaker τ :=
  { b with openUntil := now + b.cooldown, failures := [] }.moveTo .opened

omit [Quantity τ] in
def succeed (b : Breaker τ) : Option PhaseChange × Breaker τ :=
  let b := { b with probing := false }
  if b.phase = .halfOpen then { b with cooldown := b.rule.baseCooldown }.moveTo .closed
  else (none, b)

omit [Quantity τ] in
def forgive (b : Breaker τ) : Breaker τ := { b with failures := [] }

def fail (b : Breaker τ) (now : τ) : Option PhaseChange × Breaker τ :=
  let b := { b with probing := false }
  if b.phase = .halfOpen then
    { b with cooldown := Quantity.least (Quantity.double b.cooldown) b.rule.maxCooldown }.trip now
  else
    let b := { b with failures := b.failures ++ [now] }.prune now
    if b.phase = .closed ∧ b.rule.threshold ≤ b.failures.length then b.trip now else (none, b)

omit [Quantity τ] in
def abandon (b : Breaker τ) : Breaker τ := { b with probing := false }

def reset (b : Breaker τ) : Option PhaseChange × Breaker τ :=
  { b with failures := [], cooldown := b.rule.baseCooldown, openUntil := Quantity.zero,
           probing := false }.moveTo .closed

def forceOpen (b : Breaker τ) (now : τ) : Option PhaseChange × Breaker τ := b.trip now

end Breaker

end ReadThrough
