import ReadThrough.Decimal.Binary

/-! Numbers as data carries them: whole numbers of any size beside doubles. Comparison is exact
across the two; arithmetic between them goes through the nearest double. -/
namespace ReadThrough

inductive Number where
  | whole (n : Int)
  | real (x : Float)
  deriving Repr

inductive ArithmeticFault where
  | resultTooLarge
  | wholeTooLarge
  | zeroToNegativePower
  | divisionByZero
  deriving DecidableEq, Repr

namespace Number

def toFloat : Number → Float
  | whole n => Decimal.ofWhole n
  | real x => x

def toFloat? (a : Number) : Except ArithmeticFault Float :=
  match a with
  | whole n =>
    let x := Decimal.ofWhole n
    if x.isInf then .error .wholeTooLarge else .ok x
  | real x => .ok x

def add : Number → Number → Number
  | whole a, whole b => whole (a + b)
  | a, b => real (a.toFloat + b.toFloat)

def sub : Number → Number → Number
  | whole a, whole b => whole (a - b)
  | a, b => real (a.toFloat - b.toFloat)

def mul : Number → Number → Number
  | whole a, whole b => whole (a * b)
  | a, b => real (a.toFloat * b.toFloat)

def quotient : Number → Number → Number
  | whole a, whole b =>
    real (Decimal.signed ((a < 0) != (b < 0)) (Decimal.nearest a.natAbs b.natAbs))
  | a, b => real (a.toFloat / b.toFloat)

/-- Compares a whole number with a double exactly; nothing compares with the undefined value. -/
def compareWhole (n : Int) (x : Float) : Option Ordering :=
  match Decimal.Binary.ofFloat? x with
  | some b =>
    let (num, den) := b.quotient
    some (compare (n * den) (if b.negative then -(num : Int) else num))
  | none => if x.isNaN then none else some (if x < 0 then .gt else .lt)

def lt : Number → Number → Bool
  | whole a, whole b => a < b
  | whole a, real x => compareWhole a x == some .lt
  | real x, whole a => compareWhole a x == some .gt
  | real x, real y => x < y

def le : Number → Number → Bool
  | whole a, whole b => a ≤ b
  | whole a, real x => compareWhole a x == some .lt || compareWhole a x == some .eq
  | real x, whole a => compareWhole a x == some .gt || compareWhole a x == some .eq
  | real x, real y => x ≤ y

def same (a b : Number) : Bool := le a b && le b a

def isZero : Number → Bool
  | whole n => n == 0
  | real x => x == 0

def powerReal (x y : Float) : Except ArithmeticFault Number :=
  if x == 0 && y < 0 then .error .zeroToNegativePower
  else
    let r := x.pow y
    if r.isInf && !x.isInf then .error .resultTooLarge else .ok (real r)

def power (base : Number) (exponent : Int) : Except ArithmeticFault Number :=
  match base with
  | whole n =>
    if 0 ≤ exponent then .ok (whole (Int.pow n exponent.toNat))
    else do
      let x ← (whole n).toFloat?
      let y ← (whole exponent).toFloat?
      powerReal x y
  | real x => do
    let y ← (whole exponent).toFloat?
    powerReal x y

def times (a b : Number) : Except ArithmeticFault Number :=
  match a, b with
  | whole a, whole b => .ok (whole (a * b))
  | a, b => do
    let x ← a.toFloat?
    let y ← b.toFloat?
    .ok (real (x * y))

def plus (a b : Number) : Except ArithmeticFault Number :=
  match a, b with
  | whole a, whole b => .ok (whole (a + b))
  | a, b => do
    let x ← a.toFloat?
    let y ← b.toFloat?
    .ok (real (x + y))

end Number

end ReadThrough
