import ReadThrough.Fault

/-! Cache keys. A raw key becomes a key of the same length over a fixed alphabet, so that no key can
smuggle a control character, a blank or a look-alike letter into the cache. -/
namespace ReadThrough.Key

def isAllowed (c : Char) : Bool :=
  c.isAlphanum || c = ':' || c = '_' || c = '-' || c = '.' || c = '/'

def clean (c : Char) : Char := if isAllowed c then c else '_'

def cleaned (raw : String) : String := String.ofList (raw.toList.map clean)

def defaultLimit : Int := 256

def sanitize (limit : Int) (raw : Value) : Except Failure String :=
  match raw with
  | .str s =>
    if s.isEmpty then .error (.invalidKey "Cache key must be a non-empty string")
    else
      let key := cleaned s
      if limit < key.length then .error (.keyTooLong key.length limit) else .ok key
  | _ => .error (.invalidKey "Cache key must be a non-empty string")

end ReadThrough.Key
