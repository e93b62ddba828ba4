import ReadThrough.Fault

/-! Tags: labels under which entries are dropped together. Nearly always a text; other plain values
are told apart by their value, and containers cannot be tags. -/
namespace ReadThrough

inductive Tag where
  | text (s : String)
  | nothing
  | whole (n : Int)
  | real (bits : UInt64)
  deriving DecidableEq, Repr

namespace Tag

def ofReal (x : Float) : Tag :=
  match Decimal.Binary.ofFloat? x with
  | some b =>
    let (n, d) := b.quotient
    if n % d = 0 then whole (if b.negative then -((n / d : Nat) : Int) else (n / d : Nat))
    else real x.toBits
  | none => real x.toBits

def ofValue (v : Value) : Except Failure Tag :=
  match v with
  | .str s => .ok (text s)
  | .null => .ok nothing
  | .bool b => .ok (whole (if b then 1 else 0))
  | .int n => .ok (whole n)
  | .float x => .ok (ofReal x)
  | v => .error (.unhashable v.kind)

def toValue : Tag → Value
  | text s => .str s
  | nothing => .null
  | whole n => .int n
  | real bits => .float (Float.ofBits bits)

def items (v : Value) : Except Failure (List Value) :=
  match v with
  | .str s => .ok (s.toList.map (fun c => .str (String.singleton c)))
  | .list xs => .ok xs
  | .tuple xs => .ok xs
  | .dict entries => .ok (entries.map (·.1))
  | .bytes bs => .ok (bs.map (fun b => .int b.toNat))
  | .circular => .ok [.circular]
  | v => .error (.notIterable v.kind)

def ofValues : List Value → Except Failure (List Tag)
  | [] => .ok []
  | v :: rest => do
    let t ← ofValue v
    let others ← ofValues rest
    .ok (t :: others)

def collect (v : Value) : Except Failure (List Tag) := do
  let vs ← items v
  let ts ← ofValues vs
  .ok ts.eraseDups

def collectGiven (v : Value) : Except Failure (List Tag) :=
  if v.holds then collect v else .ok []

end Tag

end ReadThrough
