import ReadThrough.Fault

/-! What an error tells of itself: its attributes by name, and its log record. -/
namespace ReadThrough.Fault

def ownAttributes : Failure → List (String × Value)
  | .keyTooLong length limit => [("length", .int length), ("limit", .int limit)]
  | .valueTooLarge size limit => [("size", .int size), ("limit", .int limit)]
  | .sensitive key reason => [("key", .str key), ("reason", .str reason)]
  | .rateLimited key limit window =>
    [("key", .str key), ("limit", .int limit), ("window", .float window.toFloat)]
  | .circuitOpen endpoint retryIn =>
    [("endpoint", .str endpoint),
      ("retry_in", (retryIn.map (fun x => .float x.toFloat)).getD .null)]
  | _ => []

def shownWait (v : Value) : Value :=
  match v.number? with
  | some n => .float n.toFloat
  | none => v

/-- The attributes of an error of the cache's own family; other errors show none. The cause of a
classified error is the label of its raw error. -/
def attributes (f : Fault) : List (String × Value) :=
  if f.failure.isOwn then
    ownAttributes f.failure ++
    (f.retryable?.map (fun v => ("retryable", v))).toList ++
    (f.severity?.map (fun v => ("severity", v))).toList ++
    (f.retryAfter?.map (fun v => ("retry_after", shownWait v))).toList ++
    (if f.failure.isRemote then
      [("cause", (f.raw.map (fun r => Value.str r.label)).getD .null)] else [])
  else []

def report (f : Fault) (context : List (Value × Value)) : List (Value × Value) :=
  let base := [(.str "error_type", .str f.label), (.str "error_message", .str f.message)]
  let fields := context.foldl (fun acc (k, v) => Value.putEntry k v acc) base
  match f.severity? with
  | some v => if v.holds then Value.putEntry (.str "severity") v fields else fields
  | none => fields

end ReadThrough.Fault
