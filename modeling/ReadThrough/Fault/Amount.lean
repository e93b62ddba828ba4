import ReadThrough.Fault
import ReadThrough.Decimal.Reader

/-! Reading an amount out of a value that came with an error. -/
namespace ReadThrough.Value

def bytesText (bs : List UInt8) : List Char := bs.map (fun b => Char.ofNat b.toNat)

def amount (v : Value) : Except Failure Float :=
  match v with
  | str s => (Decimal.read? s.toList).elim (.error (.notSpelled v.inner)) .ok
  | decimal s => (Decimal.read? s.toList).elim (.error (.notSpelled v.inner)) .ok
  | bytes bs => (Decimal.read? (bytesText bs)).elim (.error (.notSpelled v.inner)) .ok
  | v =>
    match v.number? with
    | some n =>
      match n.toFloat? with
      | .ok x => .ok x
      | .error why => .error (.arithmetic why)
    | none => .error (.notNumber v.kind)

end ReadThrough.Value
