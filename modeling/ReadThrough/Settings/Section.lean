import ReadThrough.Settings.Coercion
import ReadThrough.Pattern.Screen
import ReadThrough.Limiter
import ReadThrough.Line

/-! The sections of the settings, each with its usual values and its limits, and what is built from
them. Names that a section does not know are ignored. -/
namespace ReadThrough

structure SecurityRules (τ : Type) where
  patterns : List String
  maxKeyLength : Int
  maxValueBytes : Int
  rejectSensitive : Bool
  rateLimit : Int
  rateWindow : τ
  deriving Repr

structure RetryRules (τ : Type) where
  maxRetries : Int
  baseDelay : τ
  multiplier : τ
  jitterMax : τ
  maxDelay : τ
  deriving Repr

structure BreakerRules (τ : Type) where
  threshold : Int
  window : τ
  baseCooldown : τ
  maxCooldown : τ
  callTimeout : Option τ
  deriving Repr

variable {τ : Type} [Quantity τ]

def Bound.positive : Bound τ := .above Quantity.zero

def Bound.notNegative : Bound τ := .atLeast Quantity.zero

namespace SecurityRules

def usual : SecurityRules τ :=
  ⟨Pattern.sensitive, 256, 1024 * 1024, false, 0, Quantity.ratio 60 1⟩

def check (v : Value) : Checked (SecurityRules τ) :=
  SecurityRules.mk
    <$> Coercion.field v "sensitive_patterns" Pattern.sensitive Coercion.texts
    <*> Coercion.field v "max_key_length" 256 (Coercion.count [.above 0])
    <*> Coercion.field v "max_value_bytes" (1024 * 1024) (Coercion.count [.above 0])
    <*> Coercion.field v "reject_sensitive" false Coercion.bool
    <*> Coercion.field v "rate_limit_per_key" 0 (Coercion.count [.atLeast 0])
    <*> Coercion.field v "rate_limit_window" (Quantity.ratio 60 1) (Coercion.amount [.positive])

def gate (r : SecurityRules τ) : Except Failure Gate := do
  let screens ← Pattern.screensOr r.patterns
  .ok ⟨screens, r.maxKeyLength, r.maxValueBytes⟩

omit [Quantity τ] in
def limiter (r : SecurityRules τ) : Limiter τ := Limiter.create r.rateLimit r.rateWindow

end SecurityRules

namespace RetryRules

def usual : RetryRules τ :=
  ⟨3, Quantity.ratio 1 1, Quantity.ratio 2 1, Quantity.ratio 1 4, Quantity.ratio 10 1⟩

def check (v : Value) : Checked (RetryRules τ) :=
  RetryRules.mk
    <$> Coercion.field v "max_retries" 3 (Coercion.count [.atLeast 0])
    <*> Coercion.field v "base_delay" usual.baseDelay (Coercion.amount [.notNegative])
    <*> Coercion.field v "multiplier" usual.multiplier
      (Coercion.amount [.atLeast (Quantity.ratio 1 1)])
    <*> Coercion.field v "jitter_max" usual.jitterMax (Coercion.amount [.notNegative])
    <*> Coercion.field v "max_delay" usual.maxDelay (Coercion.amount [.notNegative])

omit [Quantity τ] in
def backoff (r : RetryRules τ) : Backoff τ :=
  ⟨r.maxRetries, r.baseDelay, r.multiplier, r.jitterMax, some r.maxDelay⟩

end RetryRules

namespace BreakerRules

def usual : BreakerRules τ :=
  ⟨5, Quantity.ratio 60 1, Quantity.ratio 60 1, Quantity.ratio 600 1, some (Quantity.ratio 30 1)⟩

def check (v : Value) : Checked (BreakerRules τ) :=
  BreakerRules.mk
    <$> Coercion.field v "failure_threshold" 5 (Coercion.count [.above 0])
    <*> Coercion.field v "failure_window" usual.window (Coercion.amount [.positive])
    <*> Coercion.field v "base_cooldown" usual.baseCooldown (Coercion.amount [.positive])
    <*> Coercion.field v "max_cooldown" usual.maxCooldown (Coercion.amount [.positive])
    <*> Coercion.field v "call_timeout" usual.callTimeout
      (Coercion.optional (Coercion.amount [.positive]))

omit [Quantity τ] in
def rule (r : BreakerRules τ) : BreakerRule τ :=
  ⟨r.threshold, r.window, r.baseCooldown, r.maxCooldown⟩

end BreakerRules

namespace Thresholds

def usual : Thresholds τ :=
  ⟨Quantity.ratio 1 2, Quantity.ratio 9 10, Quantity.ratio 30 1, Quantity.ratio 60 1, 20⟩

def check (v : Value) : Checked (Thresholds τ) :=
  Thresholds.mk
    <$> Coercion.field v "min_hit_rate" usual.minHitRate
      (Coercion.amount [.atMost (Quantity.ratio 1 1), .notNegative])
    <*> Coercion.field v "max_size_fraction" usual.maxFill
      (Coercion.amount [.atMost (Quantity.ratio 1 1), .positive])
    <*> Coercion.field v "max_evictions_per_minute" usual.maxEvictions
      (Coercion.amount [.notNegative])
    <*> Coercion.field v "max_invalidations_per_minute" usual.maxInvalidations
      (Coercion.amount [.notNegative])
    <*> Coercion.field v "min_samples" 20 (Coercion.count [.atLeast 0])

end Thresholds

def Coercion.record {α : Type} (check : Value → Checked α) (v : Value) : Checked α :=
  match v with
  | .dict _ => check v
  | _ => .bad "model_type"

end ReadThrough
