import ReadThrough.Value

/-! What a cache reports about itself: lookups, removals, refreshes, its size, retries and circuit
changes, and events that callers add. -/
namespace ReadThrough

inductive Event where
  | hit (key : String)
  | staleHit (key : String)
  | miss (key : String)
  | eviction (key : String)
  | invalidation (count : Int) (reason : String)
  | revalidation (key : String) (success : Bool)
  | size (n : Int)
  | retry (endpoint : String) (attempt : Int) (error : String) (delay : Number)
  | circuit (endpoint before after : String)
  | custom (name : String) (fields : List (Value × Value))
  deriving Repr

namespace Event

def name : Event → String
  | hit _ => "hit"
  | staleHit _ => "stale_hit"
  | miss _ => "miss"
  | eviction _ => "eviction"
  | invalidation _ _ => "invalidation"
  | revalidation _ _ => "revalidation"
  | size _ => "size"
  | retry _ _ _ _ => "upstream_retry"
  | circuit _ _ _ => "circuit_state_change"
  | custom name _ => name

def fields : Event → List (Value × Value)
  | hit key => [(.str "key", .str key)]
  | staleHit key => [(.str "key", .str key)]
  | miss key => [(.str "key", .str key)]
  | eviction key => [(.str "key", .str key)]
  | invalidation count reason => [(.str "count", .int count), (.str "reason", .str reason)]
  | revalidation key success => [(.str "key", .str key), (.str "success", .bool success)]
  | size n => [(.str "size", .int n)]
  | retry endpoint attempt error delay =>
    [(.str "endpoint", .str endpoint), (.str "attempt", .int attempt), (.str "error", .str error),
      (.str "delay", .float delay.toFloat)]
  | circuit endpoint before after =>
    [(.str "endpoint", .str endpoint), (.str "old", .str before), (.str "new", .str after)]
  | custom _ fields => fields

def field? (e : Event) (name : String) : Option Value := (Value.dict e.fields).field? name

end Event

end ReadThrough
