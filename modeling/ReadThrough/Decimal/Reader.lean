import ReadThrough.Decimal.Binary
import ReadThrough.Text.Letter

/-! Reading numbers: digit groups with single underscores between digits, an optional fraction and
exponent, and the names of the special values. -/
namespace ReadThrough.Decimal

def digitRun (digit : Char → Option Nat) : List Char → Nat → Nat → Nat × Nat × List Char
  | [], value, count => (value, count, [])
  | '_' :: c :: rest, value, count =>
    if count = 0 then (value, count, '_' :: c :: rest)
    else
      match digit c with
      | some d => digitRun digit rest (value * 10 + d) (count + 1)
      | none => (value, count, '_' :: c :: rest)
  | c :: rest, value, count =>
    match digit c with
    | some d => digitRun digit rest (value * 10 + d) (count + 1)
    | none => (value, count, c :: rest)

def sign : List Char → Bool × List Char
  | '-' :: rest => (true, rest)
  | '+' :: rest => (false, rest)
  | rest => (false, rest)

def exponentPart (run : List Char → Nat × Nat × List Char) (cs : List Char) : Int × List Char :=
  match cs with
  | e :: rest =>
    if e = 'e' ∨ e = 'E' then
      let (negative, rest) := sign rest
      let (value, count, rest) := run rest
      if count = 0 then (0, cs) else (if negative then -(value : Int) else value, rest)
    else (0, cs)
  | [] => (0, [])

def unsigned? (digit : Char → Option Nat) (cs : List Char) : Option (Float × List Char) :=
  let (whole, before, rest) := digitRun digit cs 0 0
  let (digits, behind, rest) :=
    match rest with
    | '.' :: '_' :: more => (whole, 0, '_' :: more)
    | '.' :: more => digitRun digit more whole 0
    | rest => (whole, 0, rest)
  if before + behind = 0 then none
  else
    let (exponent, rest) := exponentPart (digitRun digit · 0 0) rest
    some (ofDigits digits (exponent - behind), rest)

def read? (cs : List Char) : Option Float :=
  let (negative, body) := sign (Text.trimBlank cs)
  let name := String.ofList (body.map Char.toLower)
  if name = "inf" ∨ name = "infinity" then some (signed negative infinite)
  else if name = "nan" then some undefined
  else
    match unsigned? Text.digitValue? body with
    | some (x, []) => some (signed negative x)
    | _ => none

end ReadThrough.Decimal
