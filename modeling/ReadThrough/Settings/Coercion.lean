import ReadThrough.Assoc
import ReadThrough.Fault.Amount
import ReadThrough.Quantity

/-! Reading settings out of plain values. Numbers and truth values may be spelled as texts; every
defect is reported with its place, not only the first. -/
namespace ReadThrough

inductive Checked (α : Type) where
  | valid (a : α)
  | invalid (defects : List Defect)

namespace Checked
variable {α β : Type}

def map (f : α → β) : Checked α → Checked β
  | valid a => valid (f a)
  | invalid ds => invalid ds

def both (f : Checked (α → β)) (x : Checked α) : Checked β :=
  match f, x with
  | valid f, valid a => valid (f a)
  | valid _, invalid ds => invalid ds
  | invalid ds, valid _ => invalid ds
  | invalid ds, invalid es => invalid (ds ++ es)

instance : Applicative Checked where
  pure := valid
  map := map
  seq f x := both f (x ())

def under (name : String) : Checked α → Checked α
  | valid a => valid a
  | invalid ds => invalid (ds.map (fun d => { d with location := name :: d.location }))

def bad (kind : String) : Checked α := invalid [⟨[], kind⟩]

def toExcept : Checked α → Except Failure α
  | valid a => .ok a
  | invalid ds => .error (.defects ds)

def items (check : Value → Checked α) : Nat → List Value → Checked (List α)
  | _, [] => valid []
  | n, v :: rest => List.cons <$> (check v).under (toString n) <*> items check (n + 1) rest

end Checked

inductive Bound (α : Type) where
  | atMost (x : α)
  | atLeast (x : α)
  | above (x : α)
  deriving Repr

namespace Bound

def kind {α : Type} : Bound α → String
  | atMost _ => "less_than_equal"
  | atLeast _ => "greater_than_equal"
  | above _ => "greater_than"

def holds {α : Type} [LT α] [LE α] [DecidableLT α] [DecidableLE α] (a : α) : Bound α → Bool
  | atMost x => a ≤ x
  | atLeast x => x ≤ a
  | above x => x < a

end Bound

namespace Checked

def within {α : Type} [LT α] [LE α] [DecidableLT α] [DecidableLE α] (bounds : List (Bound α))
    (x : Checked α) : Checked α :=
  match x with
  | invalid ds => invalid ds
  | valid a =>
    match bounds.find? (fun b => !b.holds a) with
    | some b => bad b.kind
    | none => valid a

end Checked

namespace Coercion

def isEdge (c : Char) : Bool := Text.isBlank c && !(0x1c ≤ c.toNat && c.toNat ≤ 0x1f)

def trimmed (s : String) : List Char :=
  ((s.toList.dropWhile isEdge).reverse.dropWhile isEdge).reverse

def dropUnderscores? (cs : List Char) : Option (List Char) :=
  if cs.contains '_' && cs.head? != some '_' && cs.getLast? != some '_' &&
      !Text.contains cs ['_', '_'] then some (cs.filter (· != '_')) else none

def dropZeroFraction (cs : List Char) : List Char :=
  let whole := cs.takeWhile (· != '.')
  match cs.drop whole.length with
  | '.' :: fraction => if fraction.all (· == '0') then whole else cs
  | _ => cs

def wholeText? (s : String) : Option Int :=
  let (negative, body) := Decimal.sign (trimmed s)
  let body := dropZeroFraction body
  let digits := (dropUnderscores? body).getD body
  if digits.isEmpty || !digits.all Char.isDigit then none
  else
    let n : Nat := digits.foldl (fun n c => n * 10 + (c.toNat - 48)) 0
    some (if negative then -(n : Int) else n)

def asciiDigit? (c : Char) : Option Nat := if c.isDigit then some (c.toNat - 48) else none

def plainReal? (cs : List Char) : Option Float :=
  let (negative, body) := Decimal.sign cs
  let name := String.ofList (body.map Char.toLower)
  if name = "inf" ∨ name = "infinity" then some (Decimal.signed negative Decimal.infinite)
  else if name = "nan" then some Decimal.undefined
  else if body.contains '_' then none
  else
    match Decimal.unsigned? asciiDigit? body with
    | some (x, []) => some (Decimal.signed negative x)
    | _ => none

def realText? (s : String) : Option Float :=
  (plainReal? (trimmed s)).orElse fun _ => (dropUnderscores? s.toList).bind plainReal?

def bytesText? (bs : List UInt8) : Option String := String.fromUTF8? ⟨bs.toArray⟩

def wholeReal (x : Float) : Checked Int :=
  match Decimal.Binary.ofFloat? x with
  | none => .bad "finite_number"
  | some b =>
    let (n, d) := b.quotient
    if n % d ≠ 0 then .bad "int_from_float"
    else if 0x8000000000000000 ≤ n / d then .bad "int_parsing_size"
    else .valid (if b.negative then -((n / d : Nat) : Int) else (n / d : Nat))

def spelledWhole (s : String) : Checked Int :=
  match wholeText? s with
  | some n => .valid n
  | none => .bad "int_parsing"

def int (v : Value) : Checked Int :=
  match v with
  | .bool b => .valid (if b then 1 else 0)
  | .int n => .valid n
  | .float x => wholeReal x
  | .decimal s =>
    match realText? s with
    | some x => wholeReal x
    | none => .bad "int_type"
  | .str s => spelledWhole s
  | .bytes bs =>
    match bytesText? bs with
    | some s => spelledWhole s
    | none => .bad "int_parsing"
  | _ => .bad "int_type"

def spelledReal (s : String) : Checked Float :=
  match realText? s with
  | some x => .valid x
  | none => .bad "float_parsing"

def real (v : Value) : Checked Float :=
  match v with
  | .bool b => .valid (if b then 1 else 0)
  | .int n =>
    let x := Decimal.ofWhole n
    if x.isInf then .bad "float_type" else .valid x
  | .float x => .valid x
  | .decimal s => spelledReal s
  | .str s => spelledReal s
  | .bytes bs =>
    match bytesText? bs with
    | some s => spelledReal s
    | none => .bad "float_parsing"
  | _ => .bad "float_type"

def yesWords : List String := ["1", "on", "t", "true", "y", "yes"]
def noWords : List String := ["0", "off", "f", "false", "n", "no"]

def spelledBool (s : String) : Checked Bool :=
  let word := String.ofList (s.toList.map Char.toLower)
  if yesWords.contains word then .valid true
  else if noWords.contains word then .valid false
  else .bad "bool_parsing"

def wholeBool (n : Int) : Checked Bool :=
  if n = 1 then .valid true else if n = 0 then .valid false else .bad "bool_parsing"

def realBool (x : Float) : Checked Bool :=
  match wholeReal x with
  | .valid n => wholeBool n
  | .invalid _ => .bad "bool_type"

def bool (v : Value) : Checked Bool :=
  match v with
  | .bool b => .valid b
  | .int n => wholeBool n
  | .float x => realBool x
  | .decimal s => ((realText? s).map realBool).getD (.bad "bool_type")
  | .str s => spelledBool s
  | .bytes bs =>
    match bytesText? bs with
    | some s => spelledBool s
    | none => .bad "bool_parsing"
  | _ => .bad "bool_type"

def text (v : Value) : Checked String :=
  match v with
  | .str s => .valid s
  | .bytes bs =>
    match bytesText? bs with
    | some s => .valid s
    | none => .bad "string_unicode"
  | _ => .bad "string_type"

def texts (v : Value) : Checked (List String) :=
  match v with
  | .list vs => Checked.items text 0 vs
  | .tuple vs => Checked.items text 0 vs
  | _ => .bad "list_type"

def byName {α : Type} (entries : List (String × α)) : Assoc String α :=
  entries.foldl (fun m e => m.put e.1 e.2) .empty

def amounts {τ : Type} [Quantity τ] (v : Value) : Checked (List (String × τ)) :=
  let entry (k v : Value) : Checked (String × τ) :=
    let name := (text k).under "[key]"
    let amount := (real v).map (fun x => (Quantity.ofNumber (.real x) : τ))
    (Prod.mk <$> name <*> amount).under k.display
  match v with
  | .dict entries =>
    (entries.foldr (fun e rest => List.cons <$> entry e.1 e.2 <*> rest) (.valid [])).map
      (fun found => (byName found).entries)
  | _ => .bad "dict_type"

def amount {τ : Type} [Quantity τ] (bounds : List (Bound τ)) (v : Value) : Checked τ :=
  ((real v).map (fun x => Quantity.ofNumber (.real x))).within bounds

def count (bounds : List (Bound Int)) (v : Value) : Checked Int := (int v).within bounds

def optional {α : Type} (check : Value → Checked α) (v : Value) : Checked (Option α) :=
  match v with
  | .null => .valid none
  | v => (check v).map some

def field {α : Type} (record : Value) (name : String) (usual : α) (check : Value → Checked α) :
    Checked α :=
  match record.field? name with
  | some v => (check v).under name
  | none => .valid usual

end Coercion

end ReadThrough
