import ReadThrough.Decimal.Binary

/-! The fewest decimal digits that read back to a double, and the digits of a double to a given
number of places. All arithmetic is exact. -/
namespace ReadThrough.Decimal

structure Digits where
  digits : Nat
  exponent : Int
  deriving DecidableEq, Repr

def stripZeros : (fuel : Nat) → Digits → Digits
  | 0, d => d
  | fuel + 1, d =>
    if d.digits ≠ 0 ∧ d.digits % 10 = 0 then stripZeros fuel ⟨d.digits / 10, d.exponent + 1⟩ else d

def reachesTen (num den : Nat) (k : Int) : Bool :=
  let (n, d) := scaled num den 10 (-k)
  d ≤ n

def order (num den : Nat) : Int :=
  let guess : Int := Int.fdiv (((num.log2 : Int) - (den.log2 : Int)) * 30103) 100000
  if reachesTen num den (guess + 1) then guess + 1
  else if reachesTen num den guess then guess
  else guess - 1

/-- Places of the reals that round to one double, in quarters of its last place: from `below` under
the value to two above it, the ends included when the mantissa is even. -/
structure Interval where
  value : Nat
  below : Nat
  closed : Bool
  den : Nat

def Interval.of (b : Binary) : Interval :=
  let below := if b.mantissa = Binary.full ∧ -1074 < b.exponent then 1 else 2
  let (n, d) := scaled 1 1 2 (b.exponent - 2)
  ⟨4 * b.mantissa * n, below * n, b.mantissa % 2 == 0, d⟩

def Interval.holds (i : Interval) (b : Binary) (num den : Nat) : Bool :=
  let unit := let (n, _) := scaled 1 1 2 (b.exponent - 2); n
  let low := (i.value - i.below) * den
  let high := (i.value + 2 * unit) * den
  let spot := num * i.den
  if i.closed then low ≤ spot && spot ≤ high else low < spot && spot < high

def Interval.onGrid? (i : Interval) (b : Binary) (k : Int) : Option Digits :=
  let (n, d) := scaled i.value i.den 10 (-k)
  let down := n / d
  let point (m : Nat) : Nat × Nat := scaled m 1 10 k
  let reads (m : Nat) : Bool := let (pn, pd) := point m; i.holds b pn pd
  let rest := n % d
  match reads down, reads (down + 1) with
  | true, true =>
    if 2 * rest < d ∨ (2 * rest = d ∧ down % 2 = 0) then some ⟨down, k⟩ else some ⟨down + 1, k⟩
  | true, false => some ⟨down, k⟩
  | false, true => some ⟨down + 1, k⟩
  | false, false => none

def shortest (b : Binary) : Digits :=
  if b.mantissa = 0 then ⟨0, 0⟩
  else
    let i := Interval.of b
    let (n, d) := b.quotient
    let top := order n d
    match (List.range 17).findSome? (fun (places : Nat) => i.onGrid? b (top - places)) with
    | some found => stripZeros 20 found
    | none => ⟨0, 0⟩

def significant (places : Nat) (b : Binary) : Digits :=
  if b.mantissa = 0 then ⟨0, 0⟩
  else
    let (n, d) := b.quotient
    let k := order n d - (places - 1 : Nat)
    let (sn, sd) := scaled n d 10 (-k)
    stripZeros (places + 1) ⟨roundDiv sn sd, k⟩

end ReadThrough.Decimal
