import ReadThrough.Decimal.Notation
import ReadThrough.Decimal.Reader

/-! Exact decimals. Their digits and their exponent stay as they were written, so that 1.50 is not
1.5; only the spelling is made one. -/
namespace ReadThrough.Decimal

structure Exact where
  negative : Bool
  digits : Nat
  exponent : Int
  deriving DecidableEq, Repr

namespace Exact

def read? (cs : List Char) : Option Exact :=
  let run (cs : List Char) := digitRun Text.digitValue? cs 0 0
  let (negative, body) := sign cs
  let (whole, before, rest) := run body
  let (digits, behind, rest) := match rest with
    | '.' :: more => digitRun Text.digitValue? more whole 0
    | rest => (whole, 0, rest)
  let (exponent, rest) := exponentPart run rest
  if before + behind = 0 ∨ rest ≠ [] then none
  else some ⟨negative, digits, exponent - behind⟩

def text (e : Exact) : String :=
  let digits := toString e.digits
  let point : Int := digits.length + e.exponent
  let place := if e.exponent ≤ 0 ∧ -6 < point then point else 1
  let body :=
    if place ≤ 0 then "0." ++ zeros (-place).toNat ++ digits
    else if digits.length ≤ place then digits ++ zeros (place - digits.length).toNat
    else pointAfter place.toNat digits
  let power :=
    if point = place then ""
    else (if point < place then "E-" else "E+") ++ toString (point - place).natAbs
  (if e.negative then "-" else "") ++ body ++ power

end Exact

def exactNames : List (String × String) := [
  ("inf", "Infinity"), ("infinity", "Infinity"), ("nan", "NaN"), ("snan", "sNaN")]

def exactText (s : String) : String :=
  let cs := (Text.trimBlank s.toList).filter (· != '_')
  match Exact.read? cs with
  | some e => e.text
  | none =>
    let (negative, body) := sign cs
    match exactNames.find? (·.1.toList == body.map Char.toLower) with
    | some (_, name) => (if negative then "-" else "") ++ name
    | none => s

end ReadThrough.Decimal
