import ReadThrough.Decimal.Shortest

/-! Texts of doubles. A `Layout` record holds the decisions of one format; the digits come from
the shortest or the rounded reading of the value. -/
namespace ReadThrough.Decimal

structure Layout where
  widest : Int
  keepsPoint : Bool
  undefinedText : String
  infiniteText : String
  deriving DecidableEq, Repr

def Layout.plain : Layout := ⟨16, true, "nan", "inf"⟩

def Layout.data : Layout := ⟨16, true, "NaN", "Infinity"⟩

def Layout.brief : Layout := ⟨6, false, "nan", "inf"⟩

def zeros (n : Nat) : String := "".pushn '0' n

def exponentText (e : Int) : String :=
  let digits := toString e.natAbs
  (if e < 0 then "e-" else "e+") ++ (if digits.length < 2 then "0" ++ digits else digits)

def pointAfter (n : Nat) (text : String) : String :=
  let cs := text.toList
  String.ofList (cs.take n) ++ "." ++ String.ofList (cs.drop n)

def Layout.magnitude (l : Layout) (d : Digits) : String :=
  let text := toString d.digits
  let point : Int := if d.digits = 0 then 1 else text.length + d.exponent
  if -4 < point ∧ point ≤ l.widest then
    if (text.length : Int) ≤ point then
      text ++ zeros (point - text.length).toNat ++ (if l.keepsPoint then ".0" else "")
    else if 0 < point then pointAfter point.toNat text
    else "0." ++ zeros (-point).toNat ++ text
  else
    (if text.length = 1 then text else pointAfter 1 text) ++ exponentText (point - 1)

def Layout.write (l : Layout) (digits : Binary → Digits) (x : Float) : String :=
  match Binary.ofFloat? x with
  | some b => (if b.negative then "-" else "") ++ l.magnitude (digits b)
  | none => if x.isNaN then l.undefinedText else (if x < 0 then "-" else "") ++ l.infiniteText

def plainText (x : Float) : String := Layout.plain.write shortest x

def dataText (x : Float) : String := Layout.data.write shortest x

def briefText (x : Float) : String := Layout.brief.write (significant 6) x

def fixedText (places : Nat) (x : Float) : String :=
  match Binary.ofFloat? x with
  | none => Layout.plain.write shortest x
  | some b =>
    let (n, d) := b.quotient
    let digits := toString (roundDiv (n * Nat.pow 10 places) d)
    let padded := zeros (places + 1 - digits.length) ++ digits
    (if b.negative then "-" else "") ++
      (if places = 0 then padded else pointAfter (padded.length - places) padded)

def percentText (places : Nat) (x : Float) : String := fixedText places (x * 100) ++ "%"

end ReadThrough.Decimal
