import ReadThrough.Number

/-! Cached data. Arrays and mappings keep their order; a mapping may have keys of any kind. -/
namespace ReadThrough

inductive Value where
  | null
  | bool (b : Bool)
  | int (n : Int)
  | float (x : Float)
  | str (s : String)
  | bytes (bs : List UInt8)
  | decimal (text : String)
  | tuple (items : List Value)
  | list (items : List Value)
  | dict (entries : List (Value × Value))
  | circular
  deriving Repr

namespace Value

instance : Inhabited Value := ⟨null⟩

def ofNumber : Number → Value
  | .whole n => int n
  | .real x => float x

def number? : Value → Option Number
  | bool b => some (.whole (if b then 1 else 0))
  | int n => some (.whole n)
  | float x => some (.real x)
  | _ => none

def holds : Value → Bool
  | null => false
  | bool b => b
  | int n => n != 0
  | float x => !(x == 0)
  | str s => !s.isEmpty
  | bytes bs => !bs.isEmpty
  | decimal text =>
    (text.toList.takeWhile (· != 'E')).any (fun c => ('1' ≤ c && c ≤ '9') || c.isAlpha)
  | tuple items => !items.isEmpty
  | list items => !items.isEmpty
  | dict entries => !entries.isEmpty
  | circular => true

def kind : Value → String
  | null => "NoneType"
  | bool _ => "bool"
  | int _ => "int"
  | float _ => "float"
  | str _ => "str"
  | bytes _ => "bytes"
  | decimal _ => "decimal.Decimal"
  | tuple _ => "tuple"
  | list _ => "list"
  | dict _ => "dict"
  | circular => "list"

mutual

/-- Equal as keys of one mapping: numbers by their value, all else by form. -/
def sameKey : Value → Value → Bool
  | null, null => true
  | str s, str t => s == t
  | bytes s, bytes t => s == t
  | decimal s, decimal t => s == t
  | tuple xs, tuple ys => sameKeys xs ys
  | a, b =>
    match number? a, number? b with
    | some x, some y => x.same y
    | _, _ => false

def sameKeys : List Value → List Value → Bool
  | [], [] => true
  | x :: xs, y :: ys => sameKey x y && sameKeys xs ys
  | _, _ => false

end

def putEntry (key value : Value) : List (Value × Value) → List (Value × Value)
  | [] => [(key, value)]
  | (k, v) :: rest =>
    if sameKey k key then (k, value) :: rest else (k, v) :: putEntry key value rest

def ofEntries (entries : List (Value × Value)) : Value :=
  dict (entries.foldl (fun acc (k, v) => putEntry k v acc) [])

def record (fields : List (String × Value)) : Value :=
  dict (fields.map (fun (name, v) => (str name, v)))

def field? (v : Value) (name : String) : Option Value :=
  match v with
  | dict entries =>
    (entries.find? (fun (k, _) => match k with | str s => s == name | _ => false)).map (·.2)
  | _ => none

def text? : Value → Option String
  | str s => some s
  | _ => none

end Value

end ReadThrough
