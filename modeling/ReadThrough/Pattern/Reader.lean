import ReadThrough.Pattern.Node

/-! Reading patterns. What is no pattern is refused without a reason: an unfinished group or set, a
repetition of nothing, an unknown escape, a reference to a group that is not there. -/
namespace ReadThrough.Pattern

structure Reading where
  rest : List Char
  flags : Flags
  groups : Nat
  opened : List Nat
  names : List (String × Nat)
  promised : List Nat

abbrev Reader (α : Type) := StateT Reading Option α

namespace Reader

def refuse {α : Type} : Reader α := fun _ => none

def peek : Reader (Option Char) := do return (← get).rest.head?

def next : Reader Char := fun r =>
  match r.rest with
  | [] => none
  | c :: rest => some (c, { r with rest })

def accept (c : Char) : Reader Bool := fun r =>
  match r.rest with
  | d :: rest => if c = d then some (true, { r with rest }) else some (false, r)
  | [] => some (false, r)

def require (ok : Bool) : Reader Unit := if ok then pure () else refuse

def takeWhile (most : Nat) (p : Char → Bool) : Reader (List Char) := fun r =>
  let taken := (r.rest.take most).takeWhile p
  some (taken, { r with rest := r.rest.drop taken.length })

def upTo (stop : Char) : Reader (List Char) := fun r =>
  let taken := r.rest.takeWhile (· != stop)
  match r.rest.drop taken.length, taken with
  | _ :: rest, _ :: _ => some (taken, { r with rest })
  | _, _ => none

end Reader

open Reader

def numberIn (base : Nat) (digits : List Char) : Nat :=
  digits.foldl (fun n c => n * base + (Text.hexValue? c).getD 0) 0

def isHex (c : Char) : Bool := (Text.hexValue? c).isSome
def isOctal (c : Char) : Bool := '0' ≤ c && c ≤ '7'

def hexChar (n : Nat) : Reader Char := do
  let digits ← takeWhile n isHex
  require (digits.length == n)
  let code := numberIn 16 digits
  require (code ≤ 0x10ffff)
  return Char.ofNat code

def controlEscape? (c : Char) : Option Char :=
  match c with
  | 'a' => some (Char.ofNat 7)
  | 'f' => some (Char.ofNat 12)
  | 'n' => some '\n'
  | 'r' => some '\r'
  | 't' => some '\t'
  | 'v' => some (Char.ofNat 11)
  | '\\' => some '\\'
  | _ => none

def classEscape? (c : Char) : Option Member :=
  match c with
  | 'd' => some (.ofClass .digit false)
  | 'D' => some (.ofClass .digit true)
  | 's' => some (.ofClass .space false)
  | 'S' => some (.ofClass .space true)
  | 'w' => some (.ofClass .word false)
  | 'W' => some (.ofClass .word true)
  | _ => none

def charEscape (c : Char) : Reader Char := do
  match controlEscape? c with
  | some d => return d
  | none =>
    match c with
    | 'x' => hexChar 2
    | 'u' => hexChar 4
    | 'U' => hexChar 8
    | c =>
      require (!c.isAlphanum)
      return c

def octalChar (first : List Char) (more : Nat) : Reader Char := do
  let digits ← takeWhile more isOctal
  let code := numberIn 8 (first ++ digits)
  require (code ≤ 0o377)
  return Char.ofNat code

def setEscape : Reader Member := do
  let c ← next
  match classEscape? c with
  | some m => return m
  | none =>
    if c = 'b' then return .single (Char.ofNat 8)
    else if isOctal c then return .single (← octalChar [c] 2)
    else return .single (← charEscape c)

def singleChar? : Member → Option Char
  | .single c => some c
  | _ => none

def setMember (c : Char) : Reader Member :=
  if c = '\\' then setEscape else return .single c

def setMembers : (fuel : Nat) → List Member → Reader (List Member)
  | 0, _ => refuse
  | fuel + 1, before => do
    let c ← next
    if c = ']' ∧ before ≠ [] then return before
    else
      let low ← setMember c
      if ← accept '-' then
        let d ← next
        if d = ']' then return .single '-' :: low :: before
        else
          let high ← setMember d
          match singleChar? low, singleChar? high with
          | some a, some b =>
            require (a ≤ b)
            setMembers fuel (.range a b :: before)
          | _, _ => refuse
      else setMembers fuel (low :: before)

def setNode (f : Flags) (negated : Bool) (members : List Member) : Node :=
  .set ⟨negated, members, f.ignoreCase, f.ascii⟩

def reference (index : Nat) : Reader Node := do
  let r ← get
  require (decide (index < r.groups) && !r.opened.contains index)
  return .backref index r.flags.ignoreCase r.flags.ascii

def escapeNode : Reader Node := do
  let c ← next
  let f := (← get).flags
  match classEscape? c with
  | some m => return setNode f false [m]
  | none =>
    match c with
    | 'A' => return .anchor .textStart
    | 'Z' => return .anchor .textEnd
    | 'b' => return .anchor (.wordEdge f.ascii false)
    | 'B' => return .anchor (.wordEdge f.ascii true)
    | '0' => return setNode f false [.single (← octalChar ['0'] 2)]
    | c =>
      if c.isDigit then
        let rest := (← get).rest
        match rest with
        | d :: e :: _ =>
          if isOctal c && isOctal d && isOctal e then
            return setNode f false [.single (← octalChar [c] 2)]
          else
            let more ← takeWhile 1 Char.isDigit
            reference (numberIn 10 (c :: more))
        | _ =>
          let more ← takeWhile 1 Char.isDigit
          reference (numberIn 10 (c :: more))
      else return setNode f false [.single (← charEscape c)]

def bounds : Reader (Option (Nat × Option Nat)) := do
  let start ← get
  if start.rest.head? = some '\x7d' then return none
  else
    let low ← takeWhile start.rest.length Char.isDigit
    let high ← if ← accept ',' then
        takeWhile start.rest.length Char.isDigit
      else pure low
    if ← accept '\x7d' then
      let least := numberIn 10 low
      let most := if high.isEmpty then none else some (numberIn 10 high)
      require ((most.map (fun n => decide (least ≤ n))).getD true)
      return some (least, most)
    else
      set start
      return none

def appetite : Reader Appetite := do
  if ← accept '?' then return .lazy
  else if ← accept '+' then return .possessive
  else return .greedy

def repeatLast (least : Nat) (most : Option Nat) : List Node → Reader (List Node)
  | [] => refuse
  | .anchor _ :: _ => refuse
  | .repeated _ _ _ _ :: _ => refuse
  | item :: before => do
    let a ← appetite
    return .repeated a least most item :: before

def isName (cs : List Char) : Bool :=
  match cs with
  | [] => false
  | c :: _ => cs.all Text.isWord && !Text.isDecimal c

def Flags.turn (f : Flags) (letter : Char) (on : Bool) : Option Flags :=
  match letter with
  | 'i' => some { f with ignoreCase := on }
  | 'm' => some { f with multiline := on }
  | 's' => some { f with dotAll := on }
  | 'x' => some { f with verbose := on }
  | 'a' => some { f with ascii := true }
  | 'u' => some { f with ascii := false }
  | _ => none

inductive FlagEnd where
  | whole (f : Flags)
  | scoped (f : Flags)

def flagsOff (added : List Char) : (fuel : Nat) → Char → Flags → Reader FlagEnd
  | 0, _, _ => refuse
  | fuel + 1, c, f => do
    require (c != 'a' && c != 'u' && !added.contains c)
    match f.turn c false with
    | none => refuse
    | some f =>
      let d ← next
      if d = ':' then return .scoped f else flagsOff added fuel d f

def flagsOn : (fuel : Nat) → Char → List Char → Flags → Reader FlagEnd
  | 0, _, _, _ => refuse
  | fuel + 1, c, added, f => do
    match f.turn c true with
    | none => refuse
    | some f =>
      let added := c :: added
      require (!(added.contains 'a' && added.contains 'u'))
      let d ← next
      if d = ')' then return .whole f
      else if d = ':' then return .scoped f
      else if d = '-' then flagsOff added fuel (← next) f
      else flagsOn fuel d added f

def openGroup (name : Option String) : Reader Nat := do
  let r ← get
  require ((name.map (fun n => !r.names.any (·.1 == n))).getD true)
  let index := r.groups
  set { r with groups := index + 1, opened := index :: r.opened,
               names := (name.map (fun n => (n, index))).toList ++ r.names }
  return index

def closeGroup (index : Nat) : Reader Unit :=
  modify (fun r => { r with opened := r.opened.filter (· != index) })

def close : Reader Unit := do
  let closed ← accept ')'
  require closed

def condition : Reader Nat := do
  let text ← upTo ')'
  if isName text then
    let r ← get
    match r.names.find? (·.1 == String.ofList text) with
    | some (_, index) => return index
    | none => refuse
  else
    require (text.all Char.isDigit)
    let index := numberIn 10 text
    require (index != 0)
    modify (fun r => { r with promised := index :: r.promised })
    return index

def sequence (items : List Node) : Node :=
  items.foldl (fun later item => match later with
    | .empty => item
    | later => .cat item later) .empty

def withFlags {α : Type} (f : Flags) (x : Reader α) : Reader α := do
  let outer := (← get).flags
  modify (fun r => { r with flags := f })
  let a ← x
  modify (fun r => { r with flags := outer })
  return a

mutual

def readChoice : (fuel : Nat) → (top : Bool) → Reader Node
  | 0, _ => refuse
  | fuel + 1, top => do
    let first ← readSequence fuel top []
    if ← accept '|' then
      let others ← readChoice fuel false
      return .alt first others
    else return first

/-- The items of one alternative, those read already in reverse. Flags for the whole pattern may
stand only at its very start. -/
def readSequence : (fuel : Nat) → (top : Bool) → List Node → Reader Node
  | 0, _, _ => refuse
  | fuel + 1, top, items => do
    match ← peek with
    | none => return sequence items
    | some '|' => return sequence items
    | some ')' => return sequence items
    | some c =>
      let _ ← next
      let f := (← get).flags
      if f.verbose && (c = ' ' || ('\t' ≤ c && c ≤ '\r')) then readSequence fuel top items
      else if f.verbose && c = '#' then
        modify (fun r => { r with rest := (r.rest.dropWhile (· != '\n')).drop 1 })
        readSequence fuel top items
      else
        match c with
        | '\\' => readSequence fuel top ((← escapeNode) :: items)
        | '[' =>
          let negated ← accept '^'
          let members ← setMembers fuel []
          readSequence fuel top (setNode f negated members :: items)
        | '*' => readSequence fuel top (← repeatLast 0 none items)
        | '+' => readSequence fuel top (← repeatLast 1 none items)
        | '?' => readSequence fuel top (← repeatLast 0 (some 1) items)
        | '\x7b' =>
          match ← bounds with
          | some (least, most) => readSequence fuel top (← repeatLast least most items)
          | none => readSequence fuel top (setNode f false [.single c] :: items)
        | '.' =>
          let anything := if f.dotAll then [] else [Member.single '\n']
          readSequence fuel top (.set ⟨true, anything, false, false⟩ :: items)
        | '^' =>
          let a := if f.multiline then Anchor.lineStart else Anchor.textStart
          readSequence fuel top (.anchor a :: items)
        | '$' =>
          let a := if f.multiline then Anchor.lineEnd else Anchor.lastEnd
          readSequence fuel top (.anchor a :: items)
        | '(' =>
          match ← readGroup fuel (top && items.isEmpty) with
          | some item => readSequence fuel top (item :: items)
          | none => readSequence fuel top items
        | c => readSequence fuel top (setNode f false [.single c] :: items)

def readGroup : (fuel : Nat) → (atStart : Bool) → Reader (Option Node)
  | 0, _ => refuse
  | fuel + 1, atStart => do
    if ← accept '?' then
      let f := (← get).flags
      match ← next with
      | ':' =>
        let body ← withFlags f (readChoice fuel false)
        close
        return some (.group none body)
      | '#' =>
        modify (fun r => { r with rest := r.rest.dropWhile (· != ')') })
        close
        return none
      | '>' =>
        let body ← withFlags f (readChoice fuel false)
        close
        return some (.atomic body)
      | '=' =>
        let body ← withFlags f (readChoice fuel false)
        close
        return some (.ahead false body)
      | '!' =>
        let body ← withFlags f (readChoice fuel false)
        close
        return some (.ahead true body)
      | '<' =>
        let kind ← next
        require (kind = '=' || kind = '!')
        let body ← withFlags f (readChoice fuel false)
        close
        match body.width with
        | (least, some most) =>
          require (least = most)
          return some (.behind (kind = '!') least body)
        | _ => refuse
      | '(' =>
        let index ← condition
        let yes ← withFlags f (readSequence fuel false [])
        let no ← if ← accept '|' then withFlags f (readSequence fuel false []) else pure .empty
        close
        return some (.ifGroup index yes no)
      | 'P' =>
        if ← accept '<' then
          let name ← upTo '>'
          require (isName name)
          let index ← openGroup (some (String.ofList name))
          let body ← withFlags f (readChoice fuel false)
          close
          closeGroup index
          return some (.group (some index) body)
        else
          let named ← accept '='
          require named
          let name ← upTo ')'
          let r ← get
          match r.names.find? (·.1 == String.ofList name) with
          | some (_, index) => return some (← reference index)
          | none => refuse
      | c =>
        let ended ← if c = '-' then do flagsOff [] fuel (← next) f else flagsOn fuel c [] f
        match ended with
        | .whole g =>
          require atStart
          modify (fun r => { r with flags := g })
          return none
        | .scoped g =>
          let body ← withFlags g (readChoice fuel false)
          close
          return some (.group none body)
    else
      let f := (← get).flags
      let index ← openGroup none
      let body ← withFlags f (readChoice fuel false)
      close
      closeGroup index
      return some (.group (some index) body)

end

def read? (source : String) (flags : Flags) : Option Node :=
  let cs := source.toList
  match readChoice (4 * cs.length + 8) true ⟨cs, flags, 1, [], [], []⟩ with
  | some (n, r) =>
    if r.rest.isEmpty && r.promised.all (fun i => decide (i < r.groups)) then some n else none
  | none => none

end ReadThrough.Pattern
