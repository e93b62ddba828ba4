import ReadThrough.Value.Display

/-! Data text of a value: what is measured, scanned and answered. -/
namespace ReadThrough

inductive Unwritable where
  | circular
  | keyKind (name : String)
  deriving DecidableEq, Repr

namespace Value

def writtenKey : Value → Except Unwritable String
  | str s => .ok s
  | bool b => .ok (if b then "true" else "false")
  | int n => .ok (toString n)
  | float x => .ok (Decimal.dataText x)
  | null => .ok "null"
  | v => .error (.keyKind v.kind)

mutual

def written : Value → Except Unwritable String
  | null => .ok "null"
  | bool b => .ok (if b then "true" else "false")
  | int n => .ok (toString n)
  | float x => .ok (Decimal.dataText x)
  | str s => .ok (Text.dataString s)
  | bytes bs => .ok (Text.dataString (Text.quotedBytes bs))
  | decimal text => .ok (Text.dataString text)
  | tuple items => do
    let body ← writtenAll items
    .ok ("[" ++ body ++ "]")
  | list items => do
    let body ← writtenAll items
    .ok ("[" ++ body ++ "]")
  | dict entries => do
    let body ← writtenEntries entries
    .ok ("\x7b" ++ body ++ "\x7d")
  | circular => .error .circular

def writtenAll : List Value → Except Unwritable String
  | [] => .ok ""
  | [x] => written x
  | x :: rest => do
    let first ← written x
    let others ← writtenAll rest
    .ok (first ++ ", " ++ others)

def writtenEntries : List (Value × Value) → Except Unwritable String
  | [] => .ok ""
  | [(k, v)] => do
    let name ← writtenKey k
    let body ← written v
    .ok (Text.dataString name ++ ": " ++ body)
  | (k, v) :: rest => do
    let name ← writtenKey k
    let body ← written v
    let others ← writtenEntries rest
    .ok (Text.dataString name ++ ": " ++ body ++ ", " ++ others)

end

end Value

end ReadThrough
