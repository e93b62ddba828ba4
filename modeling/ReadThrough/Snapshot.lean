import ReadThrough.Coordinator.Inspect

/-! Snapshots as plain values: entries, the store, breakers, the coordinator. Times and durations are
doubles; tags and the keys under a tag are sorted. -/
namespace ReadThrough
variable {τ : Type} [Quantity τ]

def Value.ofQuantity (x : τ) : Value := .float (Quantity.toNumber x).toFloat

def Value.ofText? (s : Option String) : Value := (s.map Value.str).getD .null

def sortedTexts (xs : List String) : List String := xs.mergeSort (fun a b => decide (a ≤ b))

namespace Tag

def sorted (tags : List Tag) : List Value :=
  (tags.mergeSort (fun a b => decide (a.toValue.display ≤ b.toValue.display))).map Tag.toValue

end Tag

namespace Entry

def shown (e : Entry τ) : Value := .record [
  ("data", e.data), ("timestamp", .ofQuantity e.stamp), ("ttl", .ofQuantity e.ttl),
  ("tags", .list (Tag.sorted e.tags)), ("version", .ofText? e.version), ("etag", .ofText? e.etag)]

def listed (e : Entry τ) (now : τ) (key : String) : Value := .record [
  ("key", .str key), ("timestamp", .ofQuantity e.stamp), ("ttl", .ofQuantity e.ttl),
  ("age", .ofQuantity (e.age now)), ("expired", .bool (e.isExpired now)),
  ("tags", .list (Tag.sorted e.tags)), ("version", .ofText? e.version), ("etag", .ofText? e.etag)]

end Entry

namespace Lookup

def shown (l : Lookup τ) : Value := .record [
  ("key", .str l.key), ("data", l.entry.data), ("stale", .bool l.stale), ("entry", l.entry.shown)]

end Lookup

namespace BreakerState

def shown (b : BreakerState τ) : Value := .record [
  ("endpoint", .str b.endpoint), ("state", .str b.phase.label), ("failure_count", .int b.failures),
  ("cooldown", .ofQuantity b.cooldown),
  ("open_until", (b.openUntil.map Value.ofQuantity).getD .null)]

def shownAll (bs : List (BreakerState τ)) : Value :=
  .record (bs.map (fun b => (b.endpoint, b.shown)))

end BreakerState

namespace Remark

def report (remarks : List Remark) : List (String × Value) := [
  ("healthy", .bool (healthy remarks)),
  ("issues", .list ((issues remarks).map Value.str)),
  ("warnings", .list ((warnings remarks).map Value.str))]

end Remark

namespace Store

def snapshot (s : Store τ) (now : τ) : List (String × Value) := [
  ("entries", .list (s.entries.entries.map (fun e => e.2.listed now e.1))),
  ("tags", .dict (s.tagged.entries.map (fun e =>
    (e.1.toValue, .list ((sortedTexts e.2).map Value.str))))),
  ("metrics", .record s.meter.summary)]

end Store

namespace Coordinator

def snapshot (now : τ) : Op (Coordinator τ) Value := do
  let c ← Op.read
  let breakers ← describeBreakers now
  let base := (c.store.snapshot now).map (fun e =>
    if e.1 = "metrics" then (e.1, .record c.summary) else e)
  pure (.record (base ++ [
    ("revalidation_queue", .list (c.queue.entries.map (fun e =>
      .record [("key", .str e.1), ("due_since", .ofQuantity e.2)]))),
    ("in_flight", .list (c.slots.keys.map Value.str)),
    ("circuit_breakers", BreakerState.shownAll breakers)]))

end Coordinator

end ReadThrough
