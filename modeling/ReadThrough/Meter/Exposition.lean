import ReadThrough.Meter.Event
import ReadThrough.Fault.Amount
import ReadThrough.Assoc
import ReadThrough.Quantity

/-! Counters and a gauge for a monitoring system: lookups by result, all other events by name, the
number of entries. A counter exists from its first event on; the gauge always exists. -/
namespace ReadThrough

structure Exposition (τ : Type) where
  lookups : Assoc String τ
  events : Assoc String τ
  entries : τ
  deriving Repr

structure Sample (τ : Type) where
  name : String
  labels : List (String × String)
  value : τ
  deriving Repr

namespace Exposition
variable {τ : Type} [Quantity τ]

def empty : Exposition τ := ⟨.empty, .empty, Quantity.zero⟩

def lookupNames : List String := ["hit", "stale_hit", "miss"]

def bump (counters : Assoc String τ) (name : String) (amount : τ) : Assoc String τ :=
  counters.put name ((counters.get? name).getD Quantity.zero + amount)

def gauge (x : Exposition τ) (v : Value) : Except Failure Unit × Exposition τ :=
  match v.amount with
  | .ok r => (.ok (), { x with entries := Quantity.ofNumber (.real r) })
  | .error why => (.error why, x)

def count (x : Exposition τ) (name : String) (amount : Value) : Except Failure Unit × Exposition τ :=
  let opened := { x with events := bump x.events name Quantity.zero }
  match amount.number? with
  | none => (.error (.unordered amount.kind), opened)
  | some n =>
    if Number.lt n (.whole 0) then (.error .negativeCount, opened)
    else (.ok (), { x with events := bump x.events name (Quantity.ofNumber n) })

def report (x : Exposition τ) (e : Event) : Except Failure Unit × Exposition τ :=
  if e.name ∈ lookupNames then
    let x := { x with lookups := bump x.lookups e.name (Quantity.ofInt 1) }
    match e.field? "size" with
    | some v => x.gauge v
    | none => (.ok (), x)
  else if e.name = "size" then x.gauge ((e.field? "size").getD (.int 0))
  else
    match x.count e.name ((e.field? "count").getD (.int 1)) with
    | (.error why, x) => (.error why, x)
    | (.ok (), x) =>
      match e.field? "size" with
      | some v => x.gauge v
      | none => (.ok (), x)

omit [Quantity τ] in
def samples (x : Exposition τ) : List (Sample τ) :=
  x.lookups.entries.map (fun (k, v) => ⟨"ledger_cache_lookups_total", [("result", k)], v⟩) ++
  x.events.entries.map (fun (k, v) => ⟨"ledger_cache_events_total", [("event", k)], v⟩) ++
  [⟨"ledger_cache_entries", [], x.entries⟩]

/-- The text of a sample's value: doubles in plain form, except that large values with an exponent
in their shorter writing use it from seven digits on. -/
def valueText (x : Float) : String :=
  if x.isNaN then "NaN"
  else if x.isInf then (if x < 0 then "-Inf" else "+Inf")
  else
    let text := Decimal.plainText x
    let cs := text.toList
    let whole := cs.takeWhile (· != '.')
    if 0 < x ∧ 6 < whole.length ∧ whole.length < cs.length then
      let digits := whole ++ cs.drop (whole.length + 1)
      let mantissa := digits.take 1 ++ '.' :: digits.drop 1
      let bare := (mantissa.reverse.dropWhile (fun c => c = '0' || c = '.')).reverse
      String.ofList bare ++ "e+0" ++ toString (whole.length - 1)
    else text

def escapeLabel (c : Char) : String :=
  if c = '\\' then "\\\\"
  else if c = '\n' then "\\n"
  else if c = '"' then "\\\""
  else String.singleton c

def labelText (s : String) : String := s.foldl (fun acc c => acc ++ escapeLabel c) ""

def line (s : Sample τ) : String :=
  let labels := s.labels.map (fun (k, v) => k ++ "=\"" ++ labelText v ++ "\"")
  let braces := if labels.isEmpty then "" else "\x7b" ++ ",".intercalate labels ++ "\x7d"
  s.name ++ braces ++ " " ++ valueText (Quantity.toNumber s.value).toFloat

def metricLines (name kind meaning : String) (samples : List (Sample τ)) : List String :=
  ["# HELP " ++ name ++ " " ++ meaning, "# TYPE " ++ name ++ " " ++ kind] ++
    (samples.filter (·.name == name)).map line

def lines (x : Exposition τ) : List String :=
  metricLines "ledger_cache_lookups_total" "counter" "Cache lookups by result" x.samples ++
  metricLines "ledger_cache_events_total" "counter" "Cache and upstream events" x.samples ++
  metricLines "ledger_cache_entries" "gauge" "Current number of entries in the cache" x.samples

end Exposition

end ReadThrough
