import ReadThrough.Coordinator

/-! Looking into a coordinator: counters, health, and a snapshot of everything it holds. -/
namespace ReadThrough.Coordinator
variable {τ : Type} [Quantity τ]

def shown (x : τ) : Value := .float (Quantity.toNumber x).toFloat

def summary (c : Coordinator τ) : List (String × Value) :=
  c.store.meter.summary ++ [
    ("in_flight", .int c.slots.size),
    ("revalidation_queue", .int c.queue.size),
    ("revalidations_pending", .int c.refreshCount)]

def health (now : τ) (given : Option (Thresholds τ)) : Op (Coordinator τ) (List Remark) :=
  metered (Meter.health now given)

def describeBreakers (now : τ) : Op (Coordinator τ) (List (BreakerState τ)) := do
  let c ← Op.read
  onLine (Line.describeAll now c.board.breakers.keys)

end ReadThrough.Coordinator
