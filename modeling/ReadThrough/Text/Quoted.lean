import ReadThrough.Text.Letter

/-! Quoted texts. Messages quote a text in single quotes, or in double quotes where that saves
escapes; data text always uses double quotes. -/
namespace ReadThrough.Text

def quoteFor (hasSingle hasDouble : Bool) : Char :=
  if hasSingle && !hasDouble then '"' else '\''

def escapeIn (quote : Char) (c : Char) : String :=
  if c = quote ∨ c = '\\' then "\\".push c
  else if c = '\n' then "\\n"
  else if c = '\r' then "\\r"
  else if c = '\t' then "\\t"
  else if c.toNat < 0x20 ∨ c.toNat = 0x7f then "\\x" ++ hex 2 c.toNat
  else if c.toNat < 0x7f ∨ isPrinted c then String.singleton c
  else if c.toNat < 0x100 then "\\x" ++ hex 2 c.toNat
  else if c.toNat < 0x10000 then "\\u" ++ hex 4 c.toNat
  else "\\U" ++ hex 8 c.toNat

def quoted (s : String) : String :=
  let quote := quoteFor (s.any (· == '\'')) (s.any (· == '"'))
  (s.foldl (fun acc c => acc ++ escapeIn quote c) (String.singleton quote)).push quote

def escapeByteIn (quote : Char) (b : UInt8) : String :=
  if b.toNat < 0x7f then escapeIn quote (Char.ofNat b.toNat) else "\\x" ++ hex 2 b.toNat

def quotedBytes (bs : List UInt8) : String :=
  let quote := quoteFor (bs.contains 0x27) (bs.contains 0x22)
  (bs.foldl (fun acc b => acc ++ escapeByteIn quote b) ("b".push quote)).push quote

def escapeData (c : Char) : String :=
  if c = '"' then "\\\""
  else if c = '\\' then "\\\\"
  else if c = '\n' then "\\n"
  else if c = '\r' then "\\r"
  else if c = '\t' then "\\t"
  else if c.toNat = 8 then "\\b"
  else if c.toNat = 12 then "\\f"
  else if c.toNat < 0x20 then "\\u" ++ hex 4 c.toNat
  else String.singleton c

def dataString (s : String) : String :=
  (s.foldl (fun acc c => acc ++ escapeData c) "\"").push '"'

end ReadThrough.Text
