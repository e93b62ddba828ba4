import ReadThrough.Value.Written

/-! Errors by cause. A `Fault` is a failure with the attributes that were hung on it and, for a
classified failure of the remote ledger, the raw error it was classified from. Labels and messages
are each one function of the failure. -/
namespace ReadThrough

inductive Remote where
  | general
  | network
  | timeout
  | throttled
  | contract
  | rejected
  | unknown
  deriving DecidableEq, Repr

structure Lineage where
  timeout : Bool
  system : Bool
  deriving DecidableEq, Repr

structure Defect where
  location : List String
  kind : String
  deriving DecidableEq, Repr

inductive Failure where
  | general (text : String)
  | refused (text : String)
  | invalidKey (text : String)
  | keyTooLong (length limit : Int)
  | valueTooLarge (size limit : Int)
  | sensitive (key reason : String)
  | rateLimited (key : String) (limit : Int) (window : Number)
  | circuitOpen (endpoint : String) (retryIn : Option Number)
  | remote (kind : Remote) (text : String)
  | foreign (label text : String) (lineage : Lineage)
  | cancelled
  | nonPositiveTtl
  | nonPositiveCapacity
  | unknownEntity (name : String)
  | missingField (name : String)
  | unhashable (kind : String)
  | notIterable (kind : String)
  | unwritable (why : Unwritable)
  | notText (kind : String)
  | noDestination
  | negativeCount
  | arithmetic (why : ArithmeticFault)
  | notSpelled (shown : String)
  | notNumber (kind : String)
  | unordered (kind : String)
  | badPattern
  | unknownProfile (shown : String)
  | unreadableSource (field : String)
  | defects (found : List Defect)
  deriving Repr

structure Traits where
  status : Option Value
  statusCode : Option Value
  code : Option Value
  headers : Option Value
  retryAfter : Option Value
  severity : Option Value
  retryable : Option Value
  deriving Repr

def Traits.none : Traits :=
  ⟨Option.none, Option.none, Option.none, Option.none, Option.none, Option.none, Option.none⟩

inductive Fault where
  | mk (failure : Failure) (traits : Traits) (raw : Option Fault)
  deriving Repr

namespace Fault

def failure : Fault → Failure
  | mk failure _ _ => failure

def traits : Fault → Traits
  | mk _ traits _ => traits

def raw : Fault → Option Fault
  | mk _ _ raw => raw

def of (failure : Failure) : Fault := mk failure Traits.none none

instance : Inhabited Fault := ⟨of .cancelled⟩

def withTraits (f : Fault) (traits : Traits) : Fault := mk f.failure traits f.raw

end Fault

namespace Remote

def label : Remote → String
  | general => "UpstreamError"
  | network => "NetworkError"
  | timeout => "UpstreamTimeoutError"
  | throttled => "RateLimitError"
  | contract => "ContractError"
  | rejected => "LedgerValidationError"
  | unknown => "UnknownUpstreamError"

def text : Remote → String
  | general => "Ledger request failed"
  | network => "Network connection error. Please check your connection."
  | timeout => "The ledger did not respond in time"
  | throttled => "The ledger is rate limiting requests"
  | contract => "Smart contract execution failed"
  | rejected => "Invalid parameters provided"
  | unknown => "An unexpected error occurred"

def retryable : Remote → Bool
  | contract => false
  | rejected => false
  | _ => true

def severity : Remote → String
  | throttled => "medium"
  | rejected => "medium"
  | unknown => "critical"
  | _ => "high"

def failure (kind : Remote) (text : String) : Failure :=
  .remote kind (if text.isEmpty then kind.text else text)

end Remote

namespace ArithmeticFault

def label : ArithmeticFault → String
  | resultTooLarge => "OverflowError"
  | wholeTooLarge => "OverflowError"
  | zeroToNegativePower => "ZeroDivisionError"
  | divisionByZero => "ZeroDivisionError"

def message : ArithmeticFault → String
  | resultTooLarge => "(34, 'Numerical result out of range')"
  | wholeTooLarge => "int too large to convert to float"
  | zeroToNegativePower => "0.0 cannot be raised to a negative power"
  | divisionByZero => "float division by zero"

end ArithmeticFault

namespace Unwritable

def label : Unwritable → String
  | circular => "ValueError"
  | keyKind _ => "TypeError"

def message : Unwritable → String
  | circular => "Circular reference detected"
  | keyKind name => "keys must be str, int, float, bool or None, not " ++ name

end Unwritable

namespace Failure

def label : Failure → String
  | general _ => "CacheError"
  | refused _ => "CacheValidationError"
  | invalidKey _ => "InvalidKey"
  | keyTooLong _ _ => "KeyTooLong"
  | valueTooLarge _ _ => "ValueTooLarge"
  | sensitive _ _ => "SensitiveDataRejected"
  | rateLimited _ _ _ => "RateLimitExceeded"
  | circuitOpen _ _ => "CircuitOpenError"
  | remote kind _ => kind.label
  | foreign label _ _ => label
  | cancelled => "CancelledError"
  | nonPositiveTtl => "ValueError"
  | nonPositiveCapacity => "ValueError"
  | unknownEntity _ => "KeyError"
  | missingField _ => "KeyError"
  | unhashable _ => "TypeError"
  | notIterable _ => "TypeError"
  | unwritable why => why.label
  | notText _ => "TypeError"
  | noDestination => "NotImplementedError"
  | negativeCount => "ValueError"
  | arithmetic why => why.label
  | notSpelled _ => "ValueError"
  | notNumber _ => "TypeError"
  | unordered _ => "TypeError"
  | badPattern => "RegexError"
  | unknownProfile _ => "ValueError"
  | unreadableSource _ => "SettingsError"
  | defects _ => "ValidationError"

def seconds (x : Number) : String := Decimal.briefText x.toFloat ++ "s"

def message : Failure → String
  | general text => text
  | refused text => text
  | invalidKey text => text
  | keyTooLong length limit => s!"Cache key too long: {length} characters (max {limit})"
  | valueTooLarge size limit => s!"Cache entry too large: {size} bytes (max {limit})"
  | sensitive key reason => "Refusing to cache '" ++ key ++ "': " ++ reason
  | rateLimited key limit window =>
    s!"Rate limit exceeded for cache key: {key} ({limit} per " ++ seconds window ++ ")"
  | circuitOpen endpoint retryIn =>
    "Circuit breaker is open for " ++ endpoint ++ ". Service temporarily unavailable." ++
      match retryIn with
      | some wait => " Retry in " ++ Decimal.fixedText 1 wait.toFloat ++ "s."
      | none => ""
  | remote _ text => text
  | foreign _ text _ => text
  | cancelled => ""
  | nonPositiveTtl => "ttl must be positive"
  | nonPositiveCapacity => "max_size must be positive"
  | unknownEntity name => Text.quoted name
  | missingField name => Text.quoted name
  | unhashable kind => "unhashable type: '" ++ kind ++ "'"
  | notIterable kind => "'" ++ kind ++ "' object is not iterable"
  | unwritable why => why.message
  | notText kind =>
    if kind = "bytes" then "cannot use a string pattern on a bytes-like object"
    else "expected string or bytes-like object, got '" ++ kind ++ "'"
  | noDestination => ""
  | negativeCount => "Counters can only be incremented by non-negative amounts."
  | arithmetic why => why.message
  | notSpelled shown => "could not convert string to float: " ++ shown
  | notNumber kind => "float() argument must be a string or a real number, not '" ++ kind ++ "'"
  | unordered kind => "'<' not supported between instances of '" ++ kind ++ "' and 'int'"
  | badPattern => ""
  | unknownProfile shown => shown ++ " is not a valid Environment"
  | unreadableSource field =>
    "error parsing value for field \"" ++ field ++ "\" from source \"EnvSettingsSource\""
  | defects _ => ""

def isRefusal : Failure → Bool
  | refused _ => true
  | invalidKey _ => true
  | keyTooLong _ _ => true
  | valueTooLarge _ _ => true
  | sensitive _ _ => true
  | rateLimited _ _ _ => true
  | _ => false

def isRemote : Failure → Bool
  | remote _ _ => true
  | _ => false

def isOwn : Failure → Bool
  | general _ => true
  | circuitOpen _ _ => true
  | f => f.isRefusal || f.isRemote

end Failure

namespace Fault

def label (f : Fault) : String := f.failure.label
def message (f : Fault) : String := f.failure.message
def isCancelled (f : Fault) : Bool := match f.failure with | .cancelled => true | _ => false

def severity? (f : Fault) : Option Value :=
  match f.traits.severity, f.failure with
  | some v, _ => some v
  | none, .remote kind _ => some (.str kind.severity)
  | none, .circuitOpen _ _ => some (.str "high")
  | none, _ => none

def retryable? (f : Fault) : Option Value :=
  match f.traits.retryable, f.failure with
  | some v, _ => some v
  | none, .remote kind _ => some (.bool kind.retryable)
  | none, .circuitOpen _ _ => some (.bool false)
  | none, _ => none

def isRetryable (f : Fault) : Bool := (f.retryable?.map Value.holds).getD true

def retryAfter? (f : Fault) : Option Value :=
  match f.traits.retryAfter, f.failure with
  | some v, _ => some v
  | none, .remote .throttled _ => some .null
  | none, _ => none

end Fault

end ReadThrough
