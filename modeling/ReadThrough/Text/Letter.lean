import ReadThrough.Text.Bounds

/-! Classes of characters: white space, decimal digits, word characters, printed characters. -/
namespace ReadThrough.Text

def isBlank (c : Char) : Bool := within blankBounds c.toNat
def isWord (c : Char) : Bool := within wordBounds c.toNat
def isDecimal (c : Char) : Bool := within digitBounds c.toNat
def isPrinted (c : Char) : Bool := !within hiddenBounds c.toNat

def digitValue? (c : Char) : Option Nat :=
  if isDecimal c then some ((c.toNat - runStart digitBounds c.toNat) % 10) else none

def hexDigit (n : Nat) : Char :=
  if n < 10 then Char.ofNat (48 + n) else Char.ofNat (87 + n)

def hex : (width : Nat) → (n : Nat) → String
  | 0, _ => ""
  | width + 1, n => (hex width (n / 16)).push (hexDigit (n % 16))

def hexValue? (c : Char) : Option Nat :=
  if '0' ≤ c ∧ c ≤ '9' then some (c.toNat - 48)
  else if 'a' ≤ c ∧ c ≤ 'f' then some (c.toNat - 87)
  else if 'A' ≤ c ∧ c ≤ 'F' then some (c.toNat - 55)
  else none

def trimBlank (cs : List Char) : List Char :=
  ((cs.dropWhile isBlank).reverse.dropWhile isBlank).reverse

def contains (whole part : List Char) : Bool :=
  match whole with
  | [] => part.isEmpty
  | c :: rest => part.isPrefixOf (c :: rest) || contains rest part

def replaceFrom (part new : List Char) : (passing : Nat) → List Char → List Char
  | _, [] => []
  | passing + 1, _ :: rest => replaceFrom part new passing rest
  | 0, c :: rest =>
    if part.isPrefixOf (c :: rest) then new ++ replaceFrom part new (part.length - 1) rest
    else c :: replaceFrom part new 0 rest

def replace (part new whole : List Char) : List Char := replaceFrom part new 0 whole

end ReadThrough.Text
