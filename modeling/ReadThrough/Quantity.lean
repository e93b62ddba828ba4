import ReadThrough.Number

/-! Amounts of time and of other measured things. The components are written over any `Quantity`;
`Number` is the one that runs. -/
namespace ReadThrough

class Quantity (τ : Type) extends Add τ, Sub τ, Mul τ, LT τ, LE τ where
  decideLt : DecidableLT τ
  decideLe : DecidableLE τ
  ofInt : Int → τ
  ratio : Int → Nat → τ
  quotient : τ → τ → τ
  isZero : τ → Bool
  scale : τ → τ → Int → Except ArithmeticFault τ
  plus : τ → τ → Except ArithmeticFault τ
  toNumber : τ → Number
  ofNumber : Number → τ

namespace Quantity
variable {τ : Type} [Quantity τ]

instance : DecidableLT τ := decideLt
instance : DecidableLE τ := decideLe

def zero : τ := ratio 0 1

def least (a b : τ) : τ := if b < a then b else a

def greatest (a b : τ) : τ := if a < b then b else a

def double (a : τ) : τ := a * ofInt 2

end Quantity

instance : Quantity Number where
  add := Number.add
  sub := Number.sub
  mul := Number.mul
  lt a b := Number.lt a b = true
  le a b := Number.le a b = true
  decideLt a b := inferInstanceAs (Decidable (Number.lt a b = true))
  decideLe a b := inferInstanceAs (Decidable (Number.le a b = true))
  ofInt := .whole
  ratio n d := .real (Decimal.signed (n < 0) (Decimal.nearest n.natAbs d))
  quotient := Number.quotient
  isZero := Number.isZero
  scale base factor n := do
    let p ← factor.power n
    base.times p
  plus := Number.plus
  toNumber := id
  ofNumber := id

end ReadThrough
