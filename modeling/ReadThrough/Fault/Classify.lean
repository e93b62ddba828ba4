import ReadThrough.Fault.Amount
import ReadThrough.Text.Lower

/-! Classification of raw errors of the remote ledger into the closed classes. A status of 429 and a code
that is final decide first and a status of 4xx last; between them stand the error's lineage, its name, its
wording, and the codes and statuses that ask for patience. -/
namespace ReadThrough.Fault

def contractCodes : List (String × String × String) := [
  ("CONTRACT_ERROR", "Smart contract execution failed", "high"),
  ("INSUFFICIENT_BALANCE", "Insufficient balance to complete transaction", "medium"),
  ("UNAUTHORIZED", "Wallet authorization required", "medium")]

def rejectionCodes : List String := ["INVALID_PARAMETERS", "VALIDATION_ERROR"]
def pendingCodes : List String := ["TRANSACTION_PENDING", "TRY_AGAIN_LATER"]
def throttleCode : String := "RATE_LIMIT_EXCEEDED"

def status? (f : Fault) : Option Int :=
  let first := f.traits.status.getD .null
  match if first.holds then first else f.traits.statusCode.getD .null with
  | .int n => some n
  | .bool b => some (if b then 1 else 0)
  | _ => none

def code? (f : Fault) : Option String := f.traits.code.bind Value.text?

def headerWait (headers : Value) : Value :=
  match headers with
  | .dict _ =>
    let small := (headers.field? "retry-after").getD .null
    if small.holds then small else (headers.field? "Retry-After").getD .null
  | _ => .null

/-- The wait that an error asks for, never below zero. What spells no number asks for nothing. -/
def wait (f : Fault) : Except ArithmeticFault (Option Float) :=
  let given := f.traits.retryAfter.getD .null
  let asked := match given with
    | .null => headerWait (f.traits.headers.getD .null)
    | v => v
  match asked with
  | .null => .ok none
  | v =>
    match v.amount with
    | .ok x => .ok (some (if 0 < x then x else 0))
    | .error (.arithmetic why) => .error why
    | .error _ => .ok none

def classified (kind : Remote) (raw : Fault) : Fault :=
  mk (kind.failure "") Traits.none (some raw)

def isTimeout (f : Fault) : Bool :=
  match f.failure with
  | .foreign _ _ lineage => lineage.timeout
  | _ => false

def isSystem (f : Fault) : Bool :=
  match f.failure with
  | .foreign _ _ lineage => lineage.system
  | _ => false

def mentions (f : Fault) (word : String) : Bool :=
  Text.contains (Text.lowerLatin f.message).toList word.toList

def inRange (status : Option Int) (low high : Int) : Bool :=
  match status with
  | some n => low ≤ n && n < high
  | none => false

def classify (raw : Fault) : Except ArithmeticFault Fault :=
  if raw.failure.isRemote then .ok raw
  else
    let status := raw.status?
    let code := raw.code?
    if status = some 429 ∨ code = some throttleCode then do
      let wait ← raw.wait
      let asked := (wait.map Value.float).getD .null
      .ok (mk (Remote.throttled.failure "") ⟨none, none, none, none, some asked, none, none⟩
        (some raw))
    else
      match code.bind (fun c => contractCodes.find? (·.1 == c)) with
      | some (_, text, severity) =>
        .ok (mk (Remote.contract.failure text)
          ⟨none, none, none, none, none, some (.str severity), none⟩ (some raw))
      | none =>
        let within (codes : List String) : Bool := (code.map codes.contains).getD false
        if within rejectionCodes then .ok (classified .rejected raw)
        else if raw.isTimeout || raw.label == "TimeoutError" || raw.mentions "timeout" then
          .ok (classified .timeout raw)
        else if within pendingCodes || inRange status 500 600 then .ok (classified .network raw)
        else if raw.isSystem || raw.label == "NetworkError" || raw.mentions "network" then
          .ok (classified .network raw)
        else if inRange status 400 500 then .ok (classified .rejected raw)
        else .ok (classified .unknown raw)

end ReadThrough.Fault
