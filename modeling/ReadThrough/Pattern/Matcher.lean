import ReadThrough.Pattern.Node

/-! Matching by trying choices in order. A cursor stands between the characters before it, in
reverse, and those after it. Every matcher takes what has to match next, so that it can offer its
next choice when that fails. -/
namespace ReadThrough.Pattern

structure Cursor where
  before : List Char
  after : List Char
  left : Nat
  captures : List (Nat × List Char)

namespace Cursor

def start (text : List Char) : Cursor := ⟨[], text, text.length, []⟩

def take? (c : Cursor) (s : CharSet) : Option Cursor :=
  match c.after with
  | [] => none
  | x :: rest => if s.holds x then some { c with before := x :: c.before, after := rest,
                                                 left := c.left - 1 } else none

def takeText? (same : Char → Char → Bool) : List Char → Cursor → Option Cursor
  | [], c => some c
  | x :: more, c =>
    match c.after with
    | [] => none
    | y :: rest =>
      if same x y then
        takeText? same more { c with before := y :: c.before, after := rest, left := c.left - 1 }
      else none

def back? : Nat → Cursor → Option Cursor
  | 0, c => some c
  | n + 1, c =>
    match c.before with
    | [] => none
    | x :: rest => back? n { c with before := rest, after := x :: c.after, left := c.left + 1 }

def captured? (c : Cursor) (index : Nat) : Option (List Char) :=
  (c.captures.find? (·.1 == index)).map (·.2)

def capture (c opened : Cursor) (index : Nat) : Cursor :=
  { c with captures :=
      (index, opened.after.take (opened.left - c.left)) :: c.captures.filter (·.1 != index) }

def isAt (c : Cursor) (a : Anchor) : Bool :=
  match a with
  | .textStart => c.before.isEmpty
  | .lineStart =>
    match c.before with
    | [] => true
    | x :: _ => x = '\n'
  | .textEnd => c.after.isEmpty
  | .lastEnd =>
    match c.after with
    | [] => true
    | ['\n'] => true
    | _ => false
  | .lineEnd =>
    match c.after with
    | [] => true
    | x :: _ => x = '\n'
  | .wordEdge ascii negated =>
    if c.before.isEmpty && c.after.isEmpty then false
    else
      let isWord (x : Option Char) : Bool := (x.map (Class.word.holds ascii)).getD false
      (isWord c.before.head? != isWord c.after.head?) != negated

end Cursor

abbrev Next := Cursor → Option Cursor

abbrev Matcher := Cursor → Next → Option Cursor

def runs (s : CharSet) : (room : Nat) → Cursor → List Cursor → List Cursor
  | 0, c, acc => c :: acc
  | room + 1, c, acc =>
    match c.take? s with
    | some c' => runs s room c' (c :: acc)
    | none => c :: acc

def repeatSet (appetite : Appetite) (least : Nat) (most : Option Nat) (s : CharSet) : Matcher :=
  fun c next =>
    let room := match most with
      | some n => min n c.left
      | none => c.left
    let stops := runs s room c []
    let enough := stops.take (stops.length - least)
    match appetite with
    | .greedy => enough.findSome? next
    | .lazy => enough.reverse.findSome? next
    | .possessive => enough.head?.bind next

/-- Greedy repetition: one more turn where allowed, else what comes next. A turn that takes nothing
is not followed by another one beyond the least count. -/
def repeatGreedy (body : Matcher) (least : Nat) (most : Option Nat) :
    (fuel count : Nat) → (last : Option Nat) → Matcher
  | 0, count, _, c, next => if least ≤ count then next c else none
  | fuel + 1, count, last, c, next =>
    let allowed := (most.map (fun n => decide (count < n))).getD true &&
      (decide (count < least) || last != some c.left)
    let more := if allowed then
        body c (fun c' => repeatGreedy body least most fuel (count + 1) (some c.left) c' next)
      else none
    match more with
    | some r => some r
    | none => if least ≤ count then next c else none

def repeatLazy (body : Matcher) (least : Nat) (most : Option Nat) :
    (fuel count : Nat) → (last : Option Nat) → Matcher
  | 0, count, _, c, next => if least ≤ count then next c else none
  | fuel + 1, count, last, c, next =>
    match if least ≤ count then next c else none with
    | some r => some r
    | none =>
      let allowed := (most.map (fun n => decide (count < n))).getD true &&
        (decide (count < least) || last != some c.left)
      if allowed then
        body c (fun c' => repeatLazy body least most fuel (count + 1) (some c.left) c' next)
      else none

def once (body : Matcher) : Matcher := fun c next => (body c some).bind next

def Node.set? : Node → Option CharSet
  | .set s => some s
  | _ => none

def Node.run : Node → Matcher
  | .empty => fun c next => next c
  | .set s => fun c next => (c.take? s).bind next
  | .anchor a => fun c next => if c.isAt a then next c else none
  | .cat a b => fun c next => a.run c (fun c' => b.run c' next)
  | .alt a b => fun c next =>
    match a.run c next with
    | some r => some r
    | none => b.run c next
  | .repeated appetite least most body =>
    match body.set? with
    | some s => repeatSet appetite least most s
    | none => fun c next =>
      let fuel := least + c.left + 2
      match appetite with
      | .greedy => repeatGreedy body.run least most fuel 0 none c next
      | .lazy => repeatLazy body.run least most fuel 0 none c next
      | .possessive => once (repeatGreedy body.run least most fuel 0 none) c next
  | .group index body => fun c next =>
    match index with
    | some i => body.run c (fun c' => next (c'.capture c i))
    | none => body.run c next
  | .backref i ignoreCase ascii => fun c next =>
    let same (x y : Char) : Bool :=
      if ignoreCase then lowerIn ascii x = lowerIn ascii y else x = y
    ((c.captured? i).bind (fun text => Cursor.takeText? same text c)).bind next
  | .ahead negated body => fun c next =>
    match body.run c some with
    | some c' => if negated then none else next { c with captures := c'.captures }
    | none => if negated then next c else none
  | .behind negated width body => fun c next =>
    match (Cursor.back? width c).bind (fun b => body.run b some) with
    | some c' => if negated then none else next { c with captures := c'.captures }
    | none => if negated then next c else none
  | .atomic body => once body.run
  | .ifGroup i yes no => fun c next =>
    if (c.captured? i).isSome then yes.run c next else no.run c next

def Node.search (n : Node) : (fuel : Nat) → Cursor → Bool
  | 0, c => (n.run c some).isSome
  | fuel + 1, c =>
    if (n.run c some).isSome then true
    else
      match c.after with
      | [] => false
      | x :: rest => n.search fuel { c with before := x :: c.before, after := rest,
                                            left := c.left - 1 }

def Node.finds (n : Node) (text : String) : Bool :=
  let cs := text.toList
  n.search cs.length (Cursor.start cs)

end ReadThrough.Pattern
