import ReadThrough.Tag

/-! Keys and tags of ledger data, and the tags that a write to a ledger entity makes stale. They are
built here only, so that what is read and what is dropped agree on the spelling. -/
namespace ReadThrough.Ledger

/-! Keys. -/

def groupKey (group : Value) : String := "group:" ++ group.display

def groupsKey (user : Value) : String :=
  if user.holds then "groups:user:" ++ user.display else "groups:all"

def groupStatusKey (group : Value) : String := "group:" ++ group.display ++ ":status"
def groupMembersKey (group : Value) : String := "group:" ++ group.display ++ ":members"
def userGroupsKey (user : Value) : String := "user:" ++ user.display ++ ":groups"
def userTransactionsKey (user : Value) : String := "user:" ++ user.display ++ ":transactions"

def transactionsKey (group cursor limit : Value) : String :=
  "group:" ++ group.display ++ ":transactions:" ++
    (if cursor.holds then cursor.display else "start") ++ ":" ++
    (if limit.holds then limit.display else "10")

/-! Tags. -/

def groupTag (id : Value) : String := "group:" ++ id.display
def userTag (id : Value) : String := "user:" ++ id.display
def groupsTag : String := "groups"
def transactionsTag : String := "transactions"

inductive Entity where
  | group
  | user
  | transaction
  | groups
  deriving DecidableEq, Repr

namespace Entity

def ofName? (name : String) : Option Entity :=
  match name with
  | "group" => some group
  | "user" => some user
  | "transaction" => some transaction
  | "groups" => some groups
  | _ => none

def mark : String := "\x7bid\x7d"

def templates : Entity → List String
  | group => [groupTag (.str mark), groupsTag]
  | user => [userTag (.str mark)]
  | transaction => [transactionsTag, groupTag (.str mark)]
  | groups => [groupsTag]

def expand (id : Option Value) (template : String) : Option String :=
  if Text.contains template.toList mark.toList then
    id.map (fun v => .ofList (Text.replace mark.toList v.display.toList template.toList))
  else some template

def tags (kind : Entity) (id : Option Value) : List String := kind.templates.filterMap (expand id)

end Entity

def tagsForEntity (kind : String) (id : Option Value) : Except Failure (List String) :=
  match Entity.ofName? kind with
  | some e => .ok (e.tags id)
  | none => .error (.unknownEntity kind)

end ReadThrough.Ledger
