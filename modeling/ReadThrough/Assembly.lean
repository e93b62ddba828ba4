import ReadThrough.Settings
import ReadThrough.Coordinator

/-! A coordinator built from settings. One clock serves all of its parts. -/
namespace ReadThrough.Settings
variable {τ : Type} [Quantity τ]

def drawLeast (low _high : τ) : τ := low

def service (s : Settings τ) : Service τ :=
  ⟨s.retry.backoff, s.breaker.callTimeout, drawLeast⟩

def store (s : Settings τ) (sink : Sink τ) : Except Failure (Store τ) := do
  let gate ← s.security.gate
  let meter := Meter.create s.maxSize (Quantity.ratio 60 1) s.health sink
  Store.create s.maxSize s.ttlFor gate s.security.limiter meter

def coordinator (s : Settings τ) (sink : Sink τ) : Except Failure (Coordinator τ) := do
  let store ← s.store sink
  .ok (Coordinator.create store s.breaker.rule s.service s.toleratesStale
    s.security.rejectSensitive)

end ReadThrough.Settings
