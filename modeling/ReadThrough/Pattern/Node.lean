import ReadThrough.Text.Letter
import ReadThrough.Text.Lower

/-! Patterns as trees, and tests of single characters. -/
namespace ReadThrough.Pattern

structure Flags where
  ignoreCase : Bool
  multiline : Bool
  dotAll : Bool
  verbose : Bool
  ascii : Bool
  deriving DecidableEq, Repr

def Flags.none : Flags := ⟨false, false, false, false, false⟩

inductive Class where
  | digit
  | space
  | word
  deriving DecidableEq, Repr

def Class.holds (k : Class) (ascii : Bool) (c : Char) : Bool :=
  (!ascii || c.toNat < 0x80) &&
    match k with
    | digit => Text.isDecimal c
    | space => Text.isBlank c && !(ascii && 0x1c ≤ c.toNat && c.toNat ≤ 0x1f)
    | word => Text.isWord c

inductive Member where
  | single (c : Char)
  | range (low high : Char)
  | ofClass (k : Class) (negated : Bool)
  deriving DecidableEq, Repr

structure CharSet where
  negated : Bool
  members : List Member
  ignoreCase : Bool
  ascii : Bool
  deriving DecidableEq, Repr

def lowerIn (ascii : Bool) (c : Char) : Char := if ascii then c.toLower else Text.lower c

def kin (ascii : Bool) (c : Char) : List Char := if ascii then [c] else Text.relatives c

def raised (ascii : Bool) (c : Char) : List Nat :=
  if ascii then (if 'a' ≤ c ∧ c ≤ 'z' then [c.toNat - 32] else [])
  else
    let ofAscii := if 'a' ≤ c ∧ c ≤ 'z' then [c.toNat - 32] else []
    Text.lowerRuns.foldl (fun acc (first, last, step, distance) =>
      let n := ((c.toNat : Int) - distance).toNat
      if first ≤ n && n ≤ last && (n - first) % step == 0 then n :: acc else acc) ofAscii

namespace Member

def holds (m : Member) (ascii : Bool) (c : Char) : Bool :=
  match m with
  | single d => c = d
  | range low high => low ≤ c && c ≤ high
  | ofClass k negated => k.holds ascii c != negated

def holdsFolded (m : Member) (ascii : Bool) (c : Char) : Bool :=
  let c := lowerIn ascii c
  match m with
  | single d => (kin ascii (lowerIn ascii d)).contains c
  | range low high =>
    (kin ascii c).any (fun d => (d.toNat :: raised ascii d).any
      (fun n => low.toNat ≤ n && n ≤ high.toNat))
  | ofClass k negated => k.holds ascii c != negated

end Member

def CharSet.holds (s : CharSet) (c : Char) : Bool :=
  (s.members.any (fun m => if s.ignoreCase then m.holdsFolded s.ascii c else m.holds s.ascii c))
    != s.negated

inductive Anchor where
  | textStart
  | lineStart
  | textEnd
  | lastEnd
  | lineEnd
  | wordEdge (ascii negated : Bool)
  deriving DecidableEq, Repr

inductive Appetite where
  | greedy
  | lazy
  | possessive
  deriving DecidableEq, Repr

inductive Node where
  | empty
  | set (s : CharSet)
  | anchor (a : Anchor)
  | cat (first second : Node)
  | alt (first second : Node)
  | repeated (appetite : Appetite) (least : Nat) (most : Option Nat) (body : Node)
  | group (index : Option Nat) (body : Node)
  | backref (index : Nat) (ignoreCase ascii : Bool)
  | ahead (negated : Bool) (body : Node)
  | behind (negated : Bool) (width : Nat) (body : Node)
  | atomic (body : Node)
  | ifGroup (index : Nat) (yes no : Node)
  deriving DecidableEq, Repr

namespace Node

def width : Node → Nat × Option Nat
  | empty => (0, some 0)
  | set _ => (1, some 1)
  | anchor _ => (0, some 0)
  | cat a b => ((width a).1 + (width b).1,
      match (width a).2, (width b).2 with
      | some x, some y => some (x + y)
      | _, _ => none)
  | alt a b => (min (width a).1 (width b).1,
      match (width a).2, (width b).2 with
      | some x, some y => some (max x y)
      | _, _ => none)
  | repeated _ least most body => (least * (width body).1,
      match (width body).2, most with
      | some 0, _ => some 0
      | some x, some n => some (x * n)
      | _, _ => none)
  | group _ body => width body
  | backref _ _ _ => (0, none)
  | ahead _ _ => (0, some 0)
  | behind _ _ _ => (0, some 0)
  | atomic body => width body
  | ifGroup _ yes no => (min (width yes).1 (width no).1,
      match (width yes).2, (width no).2 with
      | some x, some y => some (max x y)
      | _, _ => none)

end Node

end ReadThrough.Pattern
