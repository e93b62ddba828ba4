import ReadThrough.Snapshot
import ReadThrough.Settings.Coercion
import ReadThrough.Value.Reader

/-! The diagnostics interface of a running coordinator: its health, its state, its counters, and the
invalidation of tags by hand. -/
namespace ReadThrough.Diagnostics

inductive Content where
  | data (v : Value)
  | defects (found : List Defect)
  | lines (text : List String)

structure Response where
  status : Nat
  content : Content

inductive Payload where
  | nothing
  | data (v : Value)
  | raw (text : String)

inductive Route where
  | health
  | state
  | metrics
  | invalidate
  | exposition
  deriving DecidableEq, Repr

namespace Route

def ofPath? (path : String) : Option Route :=
  match String.ofList (path.toList.takeWhile (· != '?')) with
  | "/health" => some health
  | "/cache/state" => some state
  | "/cache/metrics" => some metrics
  | "/cache/invalidate" => some invalidate
  | "/metrics" => some exposition
  | _ => none

def verb : Route → String
  | invalidate => "POST"
  | _ => "GET"

end Route

def detail (status : Nat) (text : String) : Response :=
  ⟨status, .data (.record [("detail", .str text)])⟩

def ok (v : Value) : Response := ⟨200, .data v⟩

def body (p : Payload) : Checked (Option Value) :=
  match p with
  | .nothing => .valid none
  | .data v => .valid (some v)
  | .raw text =>
    if text.isEmpty then .valid none
    else
      match Value.read text with
      | .ok v => .valid (some v)
      | .error place => .invalid [⟨["body", toString place], "json_invalid"⟩]

def tagList (v : Option Value) : Checked (List String) :=
  match v with
  | none => .invalid [⟨["body"], "missing"⟩]
  | some (.dict entries) =>
    match (Value.dict entries).field? "tags" with
    | none => .invalid [⟨["body", "tags"], "missing"⟩]
    | some (.list vs) =>
      if vs.isEmpty then .invalid [⟨["body", "tags"], "too_short"⟩]
      else ((Checked.items Coercion.text 0 vs).under "tags").under "body"
    | some _ => .invalid [⟨["body", "tags"], "list_type"⟩]
  | some _ => .invalid [⟨["body"], "model_attributes_type"⟩]

variable {τ : Type} [Quantity τ]

def invalidate (now : τ) (p : Payload) : Op (Coordinator τ) Response :=
  match body p with
  | .invalid ds => pure ⟨422, .defects ds⟩
  | .valid v =>
    match tagList v with
    | .invalid ds => pure ⟨422, .defects ds⟩
    | .valid tags => do
      let n ← Coordinator.mutated now (tags.map Tag.text)
      pure (ok (.record [("tags", .list (tags.map Value.str)), ("invalidated", .int n)]))

def health (now : τ) : Op (Coordinator τ) Response := do
  let remarks ← Coordinator.health now none
  let status := if Remark.healthy remarks then "healthy" else "degraded"
  pure (ok (.record (("status", .str status) :: Remark.report remarks)))

def exposition : Op (Coordinator τ) Response := do
  let c ← Op.read
  match c.store.meter.sink with
  | .exposition x => pure ⟨200, .lines x.lines⟩
  | _ => pure (detail 404 "Prometheus export is not enabled")

def serve (now : τ) (route : Route) (p : Payload) : Op (Coordinator τ) Response :=
  match route with
  | .health => health now
  | .state => do pure (ok (← Coordinator.snapshot now))
  | .metrics => do
    let c ← Op.read
    pure (ok (.record c.summary))
  | .invalidate => invalidate now p
  | .exposition => exposition

def answer (now : τ) (method path : String) (p : Payload) : Op (Coordinator τ) Response :=
  match Route.ofPath? path with
  | none => pure (detail 404 "Not Found")
  | some route =>
    if method = route.verb then serve now route p else pure (detail 405 "Method Not Allowed")

end ReadThrough.Diagnostics
