/-! Finite doubles as exact dyadic numbers, and the double nearest to an exact quotient. -/
namespace ReadThrough.Decimal

structure Binary where
  negative : Bool
  mantissa : Nat
  exponent : Int
  deriving DecidableEq, Repr

def Binary.full : Nat := 0x10000000000000

def Binary.ofFloat? (x : Float) : Option Binary :=
  let bits := x.toBits.toNat
  let fraction := bits % full
  let scale : Nat := bits / full % 2048
  let negative := bits / 0x8000000000000000 == 1
  if scale = 2047 then none
  else if scale = 0 then some ⟨negative, fraction, -1074⟩
  else some ⟨negative, fraction + full, (scale : Int) - 1075⟩

def Binary.quotient (b : Binary) : Nat × Nat :=
  if b.exponent < 0 then (b.mantissa, Nat.pow 2 (-b.exponent).toNat)
  else (b.mantissa * Nat.pow 2 b.exponent.toNat, 1)

def roundDiv (num den : Nat) : Nat :=
  let whole := num / den
  let rest := num % den
  if den < 2 * rest ∨ (2 * rest = den ∧ whole % 2 = 1) then whole + 1 else whole

def scaled (num den base : Nat) (k : Int) : Nat × Nat :=
  if k < 0 then (num, den * Nat.pow base (-k).toNat) else (num * Nat.pow base k.toNat, den)

def infinite : Float := Float.ofBits 0x7ff0000000000000
def undefined : Float := Float.ofBits 0x7ff8000000000000

/-- The double nearest to `num / den`, ties to even; beyond the largest double it is infinite. -/
def nearest (num den : Nat) : Float :=
  if num = 0 ∨ den = 0 then Float.ofBits 0
  else
    let guess : Int := (num.log2 : Int) - (den.log2 : Int)
    let reached := let (n, d) := scaled num den 2 (-guess); d ≤ n
    let order := if reached then guess else guess - 1
    let unit := max (order - 52) (-1074)
    let (n, d) := scaled num den 2 (-unit)
    let mantissa := roundDiv n d
    let bits : Int := (unit + 1074) * Binary.full + mantissa
    if 0x7ff0000000000000 ≤ bits then infinite else Float.ofBits bits.toNat.toUInt64

def signed (negative : Bool) (x : Float) : Float :=
  if negative then -x else x

def ofWhole (n : Int) : Float := signed (n < 0) (nearest n.natAbs 1)

def ofDigits (digits : Nat) (exponent : Int) : Float :=
  let places : Int := digits.log2 / 3 + 1
  if digits = 0 then Float.ofBits 0
  else if 400 < exponent then infinite
  else if exponent + places < -400 then Float.ofBits 0
  else let (n, d) := scaled digits 1 10 exponent; nearest n d

end ReadThrough.Decimal
