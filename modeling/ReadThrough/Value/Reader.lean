import ReadThrough.Value
import ReadThrough.Decimal.Reader

/-! Reading data text. A reader answers the value and what follows it, or how many characters were
left where reading stopped. -/
namespace ReadThrough.Value

def isGap (c : Char) : Bool := c = ' ' || c = '\t' || c = '\n' || c = '\r'

def skipGap (cs : List Char) : List Char := cs.dropWhile isGap

inductive StringMode where
  | plain
  | escape
  | unit (missing value : Nat)
  deriving DecidableEq, Repr

def loneHalf : Char := Char.ofNat 0xfffd

def pushUnit (acc : String) (high : Option Nat) (unit : Nat) : String × Option Nat :=
  let isHigh := 0xd800 ≤ unit && unit < 0xdc00
  let isLow := 0xdc00 ≤ unit && unit < 0xe000
  match high with
  | some h =>
    if isLow then (acc.push (Char.ofNat (0x10000 + (h - 0xd800) * 0x400 + (unit - 0xdc00))), none)
    else if isHigh then (acc.push loneHalf, some unit)
    else ((acc.push loneHalf).push (Char.ofNat unit), none)
  | none =>
    if isHigh then (acc, some unit)
    else (acc.push (if isLow then loneHalf else Char.ofNat unit), none)

def settleHalf (acc : String) (high : Option Nat) : String :=
  if high.isSome then acc.push loneHalf else acc

def simpleEscape? (c : Char) : Option Char :=
  match c with
  | '"' => some '"'
  | '\\' => some '\\'
  | '/' => some '/'
  | 'b' => some (Char.ofNat 8)
  | 'f' => some (Char.ofNat 12)
  | 'n' => some '\n'
  | 'r' => some '\r'
  | 't' => some '\t'
  | _ => none

def readString (start : Nat) :
    List Char → StringMode → String → Option Nat → Except Nat (String × List Char)
  | [], .unit missing _, _, _ => .error (5 - missing)
  | [], _, _, _ => .error start
  | c :: rest, .plain, acc, high =>
    if c = '"' then .ok (settleHalf acc high, rest)
    else if c = '\\' then readString start rest .escape acc high
    else if c.toNat < 0x20 then .error (rest.length + 1)
    else readString start rest .plain ((settleHalf acc high).push c) none
  | c :: rest, .escape, acc, high =>
    if c = 'u' then readString start rest (.unit 4 0) acc high
    else
      match simpleEscape? c with
      | some e => readString start rest .plain ((settleHalf acc high).push e) none
      | none => .error (rest.length + 2)
  | c :: rest, .unit missing value, acc, high =>
    match Text.hexValue? c with
    | none => .error (rest.length + 6 - missing)
    | some d =>
      let value := value * 16 + d
      if missing ≤ 1 then
        let (acc, high) := pushUnit acc high value
        readString start rest .plain acc high
      else readString start rest (.unit (missing - 1) value) acc high

def digitsValue (before : Nat) (digits : List Char) : Nat :=
  digits.foldl (fun n d => n * 10 + (d.toNat - 48)) before

def digits (cs : List Char) : Nat × Nat × List Char :=
  let run := cs.takeWhile Char.isDigit
  (digitsValue 0 run, run.length, cs.dropWhile Char.isDigit)

def fraction (whole : Nat) (cs : List Char) : Nat × Nat × List Char :=
  match cs with
  | '.' :: c :: rest =>
    if c.isDigit then
      let digits := (c :: rest).takeWhile Char.isDigit
      (digitsValue whole digits, digits.length, (c :: rest).dropWhile Char.isDigit)
    else (whole, 0, cs)
  | _ => (whole, 0, cs)

def readNumber (cs : List Char) : Except Nat (Value × List Char) :=
  let (negative, body) := match cs with
    | '-' :: rest => (true, rest)
    | _ => (false, cs)
  let (whole, count, rest) := match body with
    | '0' :: rest => (0, 1, rest)
    | _ => digits body
  if count = 0 then .error cs.length
  else
    let (all, places, rest₁) := fraction whole rest
    let (exponent, rest₂) := Decimal.exponentPart digits rest₁
    if places = 0 ∧ rest₂.length = rest₁.length then
      .ok (int (if negative then -(whole : Int) else whole), rest₂)
    else .ok (float (Decimal.signed negative (Decimal.ofDigits all (exponent - places))), rest₂)

def words : List (List Char × Value) := [
  ("null".toList, null), ("true".toList, bool true), ("false".toList, bool false),
  ("NaN".toList, float Decimal.undefined), ("Infinity".toList, float Decimal.infinite),
  ("-Infinity".toList, float (-Decimal.infinite))]

mutual

def readValue : (fuel : Nat) → List Char → Except Nat (Value × List Char)
  | 0, cs => .error cs.length
  | fuel + 1, cs =>
    match cs with
    | [] => .error 0
    | '"' :: rest => do
      let (s, rest) ← readString cs.length rest .plain "" none
      .ok (str s, rest)
    | '[' :: rest =>
      match skipGap rest with
      | ']' :: rest => .ok (list [], rest)
      | rest => readItems fuel rest []
    | '{' :: rest =>
      match skipGap rest with
      | '}' :: rest => .ok (dict [], rest)
      | rest => readEntries fuel rest []
    | cs =>
      match words.find? (fun (word, _) => word.isPrefixOf cs) with
      | some (word, v) => .ok (v, cs.drop word.length)
      | none => readNumber cs

def readItems : (fuel : Nat) → List Char → List Value → Except Nat (Value × List Char)
  | 0, cs, _ => .error cs.length
  | fuel + 1, cs, before =>
    match readValue fuel cs with
    | .error left => .error left
    | .ok (v, rest) =>
      match skipGap rest with
      | ']' :: rest => .ok (list (v :: before).reverse, rest)
      | ',' :: rest => readItems fuel (skipGap rest) (v :: before)
      | rest => .error rest.length

def readEntries : (fuel : Nat) → List Char → List (Value × Value) →
    Except Nat (Value × List Char)
  | 0, cs, _ => .error cs.length
  | fuel + 1, cs, before =>
    match cs with
    | '"' :: rest =>
      match readString cs.length rest .plain "" none with
      | .error left => .error left
      | .ok (name, rest) =>
        match skipGap rest with
        | ':' :: rest =>
          match readValue fuel (skipGap rest) with
          | .error left => .error left
          | .ok (v, rest) =>
            match skipGap rest with
            | '}' :: rest => .ok (ofEntries ((str name, v) :: before).reverse, rest)
            | ',' :: rest => readEntries fuel (skipGap rest) ((str name, v) :: before)
            | rest => .error rest.length
        | rest => .error rest.length
    | _ => .error cs.length

end

def read (text : String) : Except Nat Value :=
  let cs := text.toList
  let total := cs.length
  match readValue (total + 1) (skipGap cs) with
  | .error left => .error (total - left)
  | .ok (v, rest) =>
    match skipGap rest with
    | [] => .ok v
    | rest => .error (total - rest.length)

end ReadThrough.Value
