import ReadThrough.Meter.Exposition
import ReadThrough.Meter.Health
import ReadThrough.Op

/-! In-process counters of one cache. Removals are kept with their moments for the per-minute rates,
and every event goes on to a sink. -/
namespace ReadThrough

inductive Sink (τ : Type) where
  | journal
  | exposition (x : Exposition τ)
  | silent
  | refusing
  deriving Repr

/-- `evicted` and `removed` hold the counts of the last removals with their moments, oldest first.
`journal` holds the events a sink was given since it was last emptied. -/
structure Meter (τ : Type) where
  capacity : Int
  window : τ
  thresholds : Thresholds τ
  sink : Sink τ
  hits : Int
  misses : Int
  staleHits : Int
  evictions : Int
  invalidations : Int
  revalidations : Int
  revalidationFailures : Int
  size : Int
  evicted : List (τ × Int)
  removed : List (τ × Int)
  journal : List Event
  deriving Repr

namespace Meter
variable {τ : Type} [Quantity τ]

def create (capacity : Int) (window : τ) (thresholds : Thresholds τ) (sink : Sink τ) : Meter τ :=
  { capacity, window, thresholds, sink, hits := 0, misses := 0, staleHits := 0, evictions := 0,
    invalidations := 0, revalidations := 0, revalidationFailures := 0, size := 0, evicted := [],
    removed := [], journal := [] }

def reset (m : Meter τ) : Meter τ :=
  { m with hits := 0, misses := 0, staleHits := 0, evictions := 0, invalidations := 0,
           revalidations := 0, revalidationFailures := 0, evicted := [], removed := [] }

def note (m : Meter τ) (e : Event) : Meter τ := { m with journal := m.journal ++ [e] }

def report (e : Event) : Op (Meter τ) Unit := fun m =>
  match m.sink with
  | .journal => (.ok (), m.note e)
  | .silent => (.ok (), m)
  | .refusing => (.error (.of .noDestination), m)
  | .exposition x =>
    match x.report e with
    | (.ok (), x) => (.ok (), { m.note e with sink := .exposition x })
    | (.error why, x) => (.error (.of why), { m.note e with sink := .exposition x })

def recordHit (key : String) : Op (Meter τ) Unit := do
  Op.change (fun m => { m with hits := m.hits + 1 })
  report (.hit key)

def recordStaleHit (key : String) : Op (Meter τ) Unit := do
  Op.change (fun m => { m with staleHits := m.staleHits + 1 })
  report (.staleHit key)

def recordMiss (key : String) : Op (Meter τ) Unit := do
  Op.change (fun m => { m with misses := m.misses + 1 })
  report (.miss key)

def recordEviction (now : τ) (key : String) : Op (Meter τ) Unit := do
  Op.change (fun m => { m with evictions := m.evictions + 1, evicted := m.evicted ++ [(now, 1)] })
  report (.eviction key)

def recordInvalidation (now : τ) (count : Int) (reason : String) : Op (Meter τ) Unit :=
  if count ≤ 0 then pure ()
  else do
    Op.change (fun m =>
      { m with invalidations := m.invalidations + count, removed := m.removed ++ [(now, count)] })
    report (.invalidation count reason)

def recordRevalidation (key : String) (success : Bool) : Op (Meter τ) Unit := do
  Op.change (fun m =>
    if success then { m with revalidations := m.revalidations + 1 }
    else { m with revalidationFailures := m.revalidationFailures + 1 })
  report (.revalidation key success)

def setSize (n : Int) : Op (Meter τ) Unit := do
  Op.change (fun m => { m with size := n })
  report (.size n)

omit [Quantity τ] in
def lookups (m : Meter τ) : Int := m.hits + m.staleHits + m.misses

def hitRate (m : Meter τ) : τ :=
  if m.lookups = 0 then Quantity.zero
  else Quantity.quotient (Quantity.ofInt (m.hits + m.staleHits)) (Quantity.ofInt m.lookups)

omit [Quantity τ] in
def total (samples : List (τ × Int)) : Int := (samples.map (·.2)).foldr (· + ·) 0

def expire (m : Meter τ) (now : τ) (samples : List (τ × Int)) : List (τ × Int) :=
  samples.dropWhile (fun s => decide (s.1 ≤ now - m.window))

def perMinute (m : Meter τ) (samples : List (τ × Int)) : Except Failure τ :=
  if Quantity.isZero m.window then .error (.arithmetic .divisionByZero)
  else .ok (Quantity.ofInt (total samples) * Quantity.quotient (Quantity.ratio 60 1) m.window)

def evictionsPerMinute (now : τ) : Op (Meter τ) τ := do
  Op.change (fun m => { m with evicted := m.expire now m.evicted })
  let m ← Op.read
  Op.liftFailure (m.perMinute m.evicted)

def invalidationsPerMinute (now : τ) : Op (Meter τ) τ := do
  Op.change (fun m => { m with removed := m.expire now m.removed })
  let m ← Op.read
  Op.liftFailure (m.perMinute m.removed)

def health (now : τ) (given : Option (Thresholds τ)) : Op (Meter τ) (List Remark) := do
  let evictions ← evictionsPerMinute now
  let invalidations ← invalidationsPerMinute now
  let m ← Op.read
  pure ((given.getD m.thresholds).judge
    ⟨m.lookups, m.hitRate, m.size, m.capacity, evictions, invalidations⟩)

def summary (m : Meter τ) : List (String × Value) := [
  ("hits", .int m.hits), ("misses", .int m.misses), ("stale_hits", .int m.staleHits),
  ("evictions", .int m.evictions), ("invalidations", .int m.invalidations),
  ("revalidations", .int m.revalidations),
  ("revalidation_failures", .int m.revalidationFailures), ("size", .int m.size),
  ("capacity", .int m.capacity),
  ("hit_rate", .float (Quantity.toNumber m.hitRate).toFloat)]

omit [Quantity τ] in
def drained (m : Meter τ) : List Event × Meter τ := (m.journal, { m with journal := [] })

end Meter

end ReadThrough
