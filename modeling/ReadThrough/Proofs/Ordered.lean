import Mathlib.Algebra.Order.Field.Rat
import ReadThrough.Quantity

/-! Amounts in order. These laws hold of exact amounts, and of doubles as long as none is undefined. -/
namespace ReadThrough

class Quantity.Ordered (τ : Type) [Quantity τ] : Prop where
  refl : ∀ a : τ, a ≤ a
  trans : ∀ {a b c : τ}, a ≤ b → b ≤ c → a ≤ c
  add : ∀ {a b : τ} (c : τ), a ≤ b → a + c ≤ b + c
  gap : ∀ {a b : τ}, ¬ b ≤ a → (Quantity.zero : τ) < b - a

/-! The rationals are exact amounts. -/

def Number.ofRational (q : Rat) : Number :=
  if q.den = 1 then .whole q.num
  else .real (Decimal.signed (q < 0) (Decimal.nearest q.num.natAbs q.den))

def Number.toRational : Number → Rat
  | .whole n => n
  | .real x =>
    match Decimal.Binary.ofFloat? x with
    | none => 0
    | some b =>
      let (num, den) := b.quotient
      mkRat (if b.negative then -(num : Int) else num) den

instance : Quantity Rat where
  decideLt := inferInstance
  decideLe := inferInstance
  ofInt n := n
  ratio n d := mkRat n d
  quotient a b := a / b
  isZero a := a == 0
  scale base factor n :=
    if factor = 0 ∧ n < 0 then .error .zeroToNegativePower else .ok (base * factor ^ n)
  plus a b := .ok (a + b)
  toNumber := .ofRational
  ofNumber := Number.toRational

instance : Quantity.Ordered Rat where
  refl _ := Rat.le_refl
  trans := Rat.le_trans
  add _ := Rat.add_le_add_right.mpr
  gap early := by
    have zero : (Quantity.zero : Rat) = 0 := by decide +kernel
    rw [zero]
    exact sub_pos.mpr (not_le.mp early)

end ReadThrough
