import ReadThrough.Fault

/-! Errors made from a description: the name of the class, its fields, the attributes hung on it. -/
namespace ReadThrough.Fault

def remotes : List Remote :=
  [.general, .network, .timeout, .throttled, .contract, .rejected, .unknown]

abbrev Fields := String → Option Value

def Fields.int (fields : Fields) (name : String) : Int :=
  match fields name with
  | some (.int n) => n
  | _ => 0

def Fields.text (fields : Fields) (name : String) : String := ((fields name).getD (.str "")).display

def Fields.spoken (fields : Fields) (name : String) : String :=
  match fields name with
  | some v => if v.holds then v.display else ""
  | none => ""

def Fields.number? (fields : Fields) (name : String) : Option Number :=
  (fields name).bind Value.number?

def own? (label : String) (fields : Fields) : Option Fault :=
  match remotes.find? (·.label == label) with
  | some .throttled =>
    some (mk (Remote.throttled.failure (fields.spoken "message"))
      ⟨none, none, none, none, some ((fields "retry_after").getD .null), none, none⟩ none)
  | some kind => some (of (kind.failure (fields.spoken "message")))
  | none =>
    match label with
    | "CacheError" => some (of (.general (fields.text "message")))
    | "CacheValidationError" => some (of (.refused (fields.text "message")))
    | "InvalidKey" => some (of (.invalidKey (fields.text "message")))
    | "KeyTooLong" => some (of (.keyTooLong (fields.int "length") (fields.int "limit")))
    | "ValueTooLarge" => some (of (.valueTooLarge (fields.int "size") (fields.int "limit")))
    | "SensitiveDataRejected" =>
      some (of (.sensitive (fields.text "key") (fields.text "reason")))
    | "RateLimitExceeded" =>
      some (of (.rateLimited (fields.text "key") (fields.int "limit")
        ((fields.number? "window").getD (.whole 0))))
    | "CircuitOpenError" =>
      some (of (.circuitOpen (fields.text "endpoint") (fields.number? "retry_in")))
    | _ => none

def places (label : String) : List String :=
  match label with
  | "KeyTooLong" => ["length", "limit"]
  | "ValueTooLarge" => ["size", "limit"]
  | "SensitiveDataRejected" => ["key", "reason"]
  | "RateLimitExceeded" => ["key", "limit", "window"]
  | "CircuitOpenError" => ["endpoint", "retry_in"]
  | _ => ["message"]

def lineage (label : String) : Lineage :=
  match label with
  | "TimeoutError" => ⟨true, true⟩
  | "OSError" => ⟨false, true⟩
  | "ConnectionError" => ⟨false, true⟩
  | "ConnectionResetError" => ⟨false, true⟩
  | _ => ⟨false, false⟩

def foreignText (label message : String) (given : Option Value) : String :=
  match label with
  | "KeyError" => (given.map Value.inner).getD ""
  | "JSONDecodeError" => message ++ ": line 1 column 1 (char 0)"
  | "UnicodeDecodeError" =>
    "'utf-8' codec can't decode byte 0xff in position 0: " ++ message
  | _ => message

def custom (label : String) (message : Option Value) : Fault :=
  of (.foreign label ((message.map Value.display).getD "") ⟨false, false⟩)

def known (label : String) (fields : Fields) : Fault :=
  if label = "CancelledError" then of .cancelled
  else
    match own? label fields with
    | some f => f
    | none =>
      let message := ((fields "message").map Value.display).getD ""
      of (.foreign label (foreignText label message (fields "message")) (lineage label))

def hangOne (t : Traits) (name : String) (v : Value) : Traits :=
  match name with
  | "status" => { t with status := some v }
  | "status_code" => { t with statusCode := some v }
  | "code" => { t with code := some v }
  | "headers" => { t with headers := some v }
  | "retry_after" => { t with retryAfter := some v }
  | "severity" => { t with severity := some v }
  | "retryable" => { t with retryable := some v }
  | _ => t

def hang (f : Fault) (attributes : List (String × Value)) : Fault :=
  f.withTraits (attributes.foldl (fun t (name, v) => hangOne t name v) f.traits)

end ReadThrough.Fault
