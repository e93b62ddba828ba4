import ReadThrough.Value
import ReadThrough.Text.Quoted
import ReadThrough.Decimal.Notation

/-! The text of a value inside messages and keys. -/
namespace ReadThrough.Value

mutual

def inner : Value → String
  | null => "None"
  | bool b => if b then "True" else "False"
  | int n => toString n
  | float x => Decimal.plainText x
  | str s => Text.quoted s
  | bytes bs => Text.quotedBytes bs
  | decimal text => "Decimal('" ++ text ++ "')"
  | tuple [x] => "(" ++ inner x ++ ",)"
  | tuple items => "(" ++ innerAll items ++ ")"
  | list items => "[" ++ innerAll items ++ "]"
  | dict entries => "\x7b" ++ innerEntries entries ++ "\x7d"
  | circular => "[[...]]"

def innerAll : List Value → String
  | [] => ""
  | [x] => inner x
  | x :: rest => inner x ++ ", " ++ innerAll rest

def innerEntries : List (Value × Value) → String
  | [] => ""
  | [(k, v)] => inner k ++ ": " ++ inner v
  | (k, v) :: rest => inner k ++ ": " ++ inner v ++ ", " ++ innerEntries rest

end

def display : Value → String
  | str s => s
  | decimal text => text
  | v => inner v

end ReadThrough.Value
