import ReadThrough.Key

/-! What may enter the cache. Hard limits bind every write; the scan for sensitive data is asked for
by those who want it. -/
namespace ReadThrough

structure Screen where
  source : String
  finds : String → Bool

structure Gate where
  screens : List Screen
  keyLimit : Int
  valueLimit : Int

inductive Verdict where
  | allowed
  | denied (reason : String)
  deriving DecidableEq, Repr

namespace Verdict

def reason? : Verdict → Option String
  | allowed => none
  | denied reason => some reason

def isAllowed : Verdict → Bool
  | allowed => true
  | denied _ => false

end Verdict

namespace Gate

def admitKey (g : Gate) (raw : Value) : Except Failure String := Key.sanitize g.keyLimit raw

def measure (g : Gate) (v : Value) : Except Failure Nat :=
  match v.written with
  | .error why => .error (.unwritable why)
  | .ok text =>
    if g.valueLimit < text.utf8ByteSize then .error (.valueTooLarge text.utf8ByteSize g.valueLimit)
    else .ok text.utf8ByteSize

def caught (g : Gate) (text : String) : Option Screen := g.screens.find? (·.finds text)

def judge (g : Gate) (key : String) (v : Value) : Verdict :=
  match g.caught key with
  | some s => .denied ("key matches sensitive pattern " ++ Text.quoted s.source)
  | none =>
    match v.written with
    | .error why => .denied ("value is not serializable: " ++ why.message)
    | .ok text =>
      match g.caught text with
      | some s => .denied ("value matches sensitive pattern " ++ Text.quoted s.source)
      | none => .allowed

def enforce (g : Gate) (key : String) (v : Value) : Except Failure Unit :=
  match g.judge key v with
  | .allowed => .ok ()
  | .denied reason => .error (.sensitive key reason)

end Gate

end ReadThrough
