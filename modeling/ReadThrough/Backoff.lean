import ReadThrough.Fault.Classify
import ReadThrough.Quantity

/-! Retries with growing delays. After each failed attempt the raw error is classified once, and the
policy either gives up or names the delay before the next attempt. -/
namespace ReadThrough

/-- The delay before retry `n + 1` is `base * factor ^ n`, at most `ceiling`, and a drawn extra of at
most `jitter`. -/
structure Backoff (τ : Type) where
  retries : Int
  base : τ
  factor : τ
  jitter : τ
  ceiling : Option τ
  deriving Repr

inductive Attempt where
  | returned (v : Value)
  | raised (f : Fault)
  | timedOut
  | cancelled
  deriving Repr

inductive Sequel (τ : Type) where
  | giveUp (error : Fault)
  | again (error : Fault) (delay : τ)
  deriving Repr

namespace Backoff
variable {τ : Type} [Quantity τ]

def capped (p : Backoff τ) (delay : τ) : τ :=
  match p.ceiling with
  | some most => Quantity.least delay most
  | none => delay

def scheduled (p : Backoff τ) (attempt : Int) (draw : τ → τ → τ) : Except ArithmeticFault τ := do
  let delay ← Quantity.scale p.base p.factor attempt
  let delay := p.capped delay
  if Quantity.ofInt 0 < p.jitter then Quantity.plus delay (draw (Quantity.ofInt 0) p.jitter)
  else .ok delay

def delay (p : Backoff τ) (attempt : Int) (hint : Option τ) (draw : τ → τ → τ) :
    Except ArithmeticFault τ :=
  match hint with
  | some wait => .ok (p.capped wait)
  | none => p.scheduled attempt draw

end Backoff

def Fault.hint {τ : Type} [Quantity τ] (f : Fault) : Except Failure (Option τ) :=
  match f.retryAfter? with
  | none => .ok none
  | some .null => .ok none
  | some v =>
    match v.amount with
    | .ok x => .ok (some (Quantity.ofNumber (.real x)))
    | .error why => .error why

def Fault.timeUp : Fault := .of (.foreign "TimeoutError" "" ⟨true, true⟩)

namespace Backoff
variable {τ : Type} [Quantity τ]

/-- Classifies the raw error of an attempt that had `limit` to finish. Within a limit every timeout
is one of the attempt. -/
def classify (limit : Option τ) (raw : Fault) : Except ArithmeticFault Fault :=
  match limit with
  | some t =>
    if raw.isTimeout then
      let text := "Ledger did not respond within " ++ Failure.seconds (Quantity.toNumber t)
      .ok (.mk (.remote .timeout text) Traits.none (some raw))
    else raw.classify
  | none => raw.classify

def decide (p : Backoff τ) (limit : Option τ) (draw : τ → τ → τ) (attempt : Nat) (raw : Fault) :
    Except Failure (Sequel τ) :=
  match classify limit raw with
  | .error why => .error (.arithmetic why)
  | .ok error =>
    if !error.isRetryable || p.retries ≤ attempt then .ok (.giveUp error)
    else
      match (error.hint : Except Failure (Option τ)) with
      | .error why => .error why
      | .ok hint =>
        match p.delay attempt hint draw with
        | .error why => .error (.arithmetic why)
        | .ok delay => .ok (.again error delay)

end Backoff

end ReadThrough
