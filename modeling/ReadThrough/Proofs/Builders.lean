import Mathlib
import ReadThrough.Ledger
import ReadThrough.Proofs.Canonical

/-! The keys of ledger reads. A key is a few pieces with colons between them. Where ids and cursors hold no colon the
pieces can be read back off the key, and they tell which read it was, up to what the read left open. -/
namespace ReadThrough.Ledger

inductive Query where
  | group (group : String)
  | groups (user : Option String)
  | groupStatus (group : String)
  | groupMembers (group : String)
  | userGroups (user : String)
  | transactions (group : String) (cursor : Option String) (limit : Option Int)
  | userTransactions (user : String)
  deriving DecidableEq

namespace Query

def givenText : Option String → Value
  | none => .null
  | some s => .str s

def givenWhole : Option Int → Value
  | none => .null
  | some n => .int n

def key : Query → String
  | group id => groupKey (.str id)
  | groups user => groupsKey (givenText user)
  | groupStatus id => groupStatusKey (.str id)
  | groupMembers id => groupMembersKey (.str id)
  | userGroups user => userGroupsKey (.str user)
  | transactions id cursor limit => transactionsKey (.str id) (givenText cursor) (givenWhole limit)
  | userTransactions user => userTransactionsKey (.str user)

def texts : Query → List String
  | group id | groupStatus id | groupMembers id => [id]
  | groups user => user.toList
  | userGroups user | userTransactions user => [user]
  | transactions id cursor _ => id :: cursor.toList

def Clear (s : String) : Prop := ∀ c ∈ s.toList, Key.Listed c ∧ c ≠ ':'

def Plain (q : Query) : Prop := ∀ s ∈ q.texts, Clear s

def filled : Query → Query
  | groups user => groups (user.filter (!·.isEmpty))
  | transactions id cursor limit => transactions id (some ((cursor.filter (!·.isEmpty)).getD "start"))
      (some ((limit.filter (· != 0)).getD 10))
  | q => q

def pieces : Query → List String
  | group id => ["group",id]
  | groups user => "groups" :: user.elim ["all"] (["user",·])
  | groupStatus id => ["group",id,"status"]
  | groupMembers id => ["group",id,"members"]
  | userGroups user => ["user",user,"groups"]
  | transactions id cursor limit => ["group",id,"transactions",cursor.getD "",toString (limit.getD 0)]
  | userTransactions user => ["user",user,"transactions"]

def ofPieces : List String → Option Query
  | ["group",id] => some (group id)
  | ["groups","all"] => some (groups none)
  | ["groups","user",user] => some (groups (some user))
  | ["group",id,"status"] => some (groupStatus id)
  | ["group",id,"members"] => some (groupMembers id)
  | ["user",user,"groups"] => some (userGroups user)
  | ["group",id,"transactions",cursor,limit] => limit.toInt?.map fun n => transactions id (some cursor) (some n)
  | ["user",user,"transactions"] => some (userTransactions user)
  | _ => none

def ofKey (key : String) : Option Query := ofPieces ((key.toList.splitOn ':').map String.ofList)

variable {q q' : Query}

theorem wordClear {word : String} (letters : word.toList.all fun c => 'a' ≤ c ∧ c ≤ 'z') : Clear word := by
  intro c mem
  have letter := of_decide_eq_true (List.all_eq_true.mp letters c mem)
  refine ⟨.inl letter,?_⟩
  rintro rfl
  exact absurd letter.1 (by decide)

theorem wholeClear (n : Int) : Clear (toString n) := by
  intro c mem
  have digit {n : Nat} (mem : c ∈ n.repr.toList) : Key.Listed c ∧ c ≠ ':' := by
    rw [Nat.toList_repr] at mem
    have digit := Nat.isDigit_of_mem_toDigits (by decide) (by decide) mem
    have range : '0' ≤ c ∧ c ≤ '9' := by
      unfold Char.isDigit at digit
      rwa [Bool.and_eq_true,decide_eq_true_eq,decide_eq_true_eq] at digit
    refine ⟨.inr (.inr (.inl range)),?_⟩
    rintro rfl
    exact absurd range.2 (by decide)
  rw [Int.toString_eq_repr,Int.repr_eq_if] at mem
  split at mem
  · exact digit mem
  · rw [String.toList_append] at mem
    rcases List.mem_append.mp mem with sign | mem
    · cases List.mem_singleton.mp sign
      exact ⟨.inr (.inr (.inr (by decide))),by decide⟩
    · exact digit mem

theorem piecesClear (plain : q.Plain) : ∀ s ∈ q.filled.pieces, Clear s := by
  have word {w : String} (letters : w.toList.all fun c => 'a' ≤ c ∧ c ≤ 'z') : Clear w := wordClear letters
  have own : ∀ s ∈ q.texts, Clear s := plain
  cases q with
  | groups user =>
    cases given : user.filter (!·.isEmpty) with
    | none =>
      simp only [filled,pieces,given,Option.elim,List.forall_mem_cons]
      exact ⟨word rfl,word rfl,List.forall_mem_nil _⟩
    | some u =>
      simp only [filled,pieces,given,Option.elim,List.forall_mem_cons]
      have mine := Option.mem_toList.mpr (Option.filter_eq_some_iff.mp given).1
      exact ⟨word rfl,word rfl,own u mine,List.forall_mem_nil _⟩
  | transactions id cursor limit =>
    have from' : Clear ((cursor.filter (!·.isEmpty)).getD "start") := by
      cases given : cursor.filter (!·.isEmpty) with
      | none => exact word rfl
      | some s =>
        have same := (Option.filter_eq_some_iff.mp given).1
        exact own s (List.mem_cons_of_mem _ (Option.mem_toList.mpr same))
    simp only [filled,pieces,List.forall_mem_cons]
    exact ⟨word rfl,own id List.mem_cons_self,word rfl,from',wholeClear _,List.forall_mem_nil _⟩
  | group id =>
    simp only [filled,pieces,List.forall_mem_cons]
    exact ⟨word rfl,own id List.mem_cons_self,List.forall_mem_nil _⟩
  | groupStatus id | groupMembers id | userGroups id | userTransactions id =>
    simp only [filled,pieces,List.forall_mem_cons]
    exact ⟨word rfl,own id List.mem_cons_self,word rfl,List.forall_mem_nil _⟩

theorem keyPieces (q : Query) : q.key = ":".intercalate q.filled.pieces := by
  rw [← String.toList_inj,String.toList_intercalate]
  cases q with
  | groups user =>
    rcases user with - | user
    · rfl
    · cases empty : user.isEmpty <;>
        simp [key,pieces,filled,groupsKey,givenText,Value.display,Value.holds,Option.filter,empty]
  | transactions id cursor limit =>
    have cursors : (if (givenText cursor).holds then (givenText cursor).display else "start") =
        (cursor.filter (!·.isEmpty)).getD "start" := by
      rcases cursor with - | s
      · rfl
      · cases empty : s.isEmpty <;> simp [givenText,Value.display,Value.holds,Option.filter,empty]
    have limits : (if (givenWhole limit).holds then (givenWhole limit).display else "10") =
        toString ((limit.filter (· != 0)).getD 10) := by
      rcases limit with - | n
      · rfl
      · by_cases zero : n = 0
        · subst zero
          rfl
        · simp [givenWhole,Value.display,Value.inner,Value.holds,Option.filter,zero]
    simp only [key,transactionsKey,cursors,limits]
    simp [pieces,filled,Value.display]
  | _ =>
    simp [key,pieces,filled,groupKey,groupStatusKey,groupMembersKey,userGroupsKey,userTransactionsKey,Value.display]

theorem ofPiecesFilled (q : Query) : ofPieces q.filled.pieces = some q.filled := by
  cases q with
  | groups user => cases filled : user.filter (!·.isEmpty) <;> simp [Query.filled,pieces,filled,ofPieces]
  | transactions id cursor limit => simp [filled,pieces,ofPieces,Int.toInt?_repr]
  | _ => rfl

theorem ofKeyFilled (plain : q.Plain) : ofKey q.key = some q.filled := by
  have apart : ∀ piece ∈ q.filled.pieces.map String.toList, ':' ∉ piece := by
    intro piece mem colon
    obtain ⟨s,listed,rfl⟩ := List.mem_map.mp mem
    exact (piecesClear plain s listed ':' colon).2 rfl
  have filled : q.filled.pieces.map String.toList ≠ [] := by
    cases q <;> simp [Query.filled,pieces]
  rw [ofKey,keyPieces,String.toList_intercalate,show ":".toList = [':'] from rfl,
    List.splitOn_intercalate ':' apart filled,
    List.map_map,← ofPiecesFilled q]
  congr 1
  exact List.map_id'' (fun s => String.ofList_toList) _

theorem joinedListed {pieces : List String} (clear : ∀ s ∈ pieces, Clear s) :
    ∀ c ∈ (":".intercalate pieces).toList, Key.Listed c := by
  induction pieces with
  | nil => exact fun _ mem => by cases mem
  | cons s rest ih =>
    intro c mem
    have first : c ∈ s.toList → Key.Listed c := fun mem => (clear s List.mem_cons_self c mem).1
    cases rest with
    | nil =>
      rw [String.intercalate_singleton] at mem
      exact first mem
    | cons s' rest =>
      rw [String.intercalate_cons_cons,String.toList_append,String.toList_append] at mem
      rcases List.mem_append.mp mem with mem | later
      · rcases List.mem_append.mp mem with mem | colon
        · exact first mem
        · cases List.mem_singleton.mp colon
          exact .inr (.inr (.inr (by decide)))
      · exact ih (fun s listed => clear s (List.mem_cons_of_mem _ listed)) c later

theorem keyStored (plain : q.Plain) : Key.cleaned q.key = q.key := by
  have listed := joinedListed (piecesClear plain)
  rw [← keyPieces] at listed
  rw [Key.cleaned,List.map_congr_left fun c mem => Key.listedClean (listed c mem),List.map_id',String.ofList_toList]

/-- Two reads whose ids and cursors are clear have one key only if they are the same read, apart from what they left
open and what that stands for. -/
theorem readsApart (plain : q.Plain) (plain' : q'.Plain) :
    (∀ limit limit' key, Key.sanitize limit (.str q.key) = .ok key → Key.sanitize limit' (.str q'.key) = .ok key →
      q.filled = q'.filled) ∧ (q.filled = q'.filled → q.key = q'.key) := by
  constructor
  · intro limit limit' key stored stored'
    obtain ⟨_,⟨⟩,-,rfl,-⟩ := Key.sanitizeOk stored
    obtain ⟨_,⟨⟩,-,same,-⟩ := Key.sanitizeOk stored'
    rw [keyStored plain,keyStored plain'] at same
    have read := ofKeyFilled plain
    rw [same,ofKeyFilled plain'] at read
    exact (Option.some.inj read).symm
  · intro same
    rw [keyPieces q,same,← keyPieces]

def oddPage : Query := .transactions "groups" (some "") (some 0)

theorem oddApart : oddPage.Plain ∧ (Query.transactions "groups" (some "start") none).Plain ∧
    (∃ key, Key.sanitize 256 (.str oddPage.key) = .ok key ∧
      Key.sanitize 256 (.str (Query.transactions "groups" (some "start") none).key) = .ok key) ∧
    oddPage.filled = (Query.transactions "groups" (some "start") none).filled ∧
    oddPage.key = (Query.transactions "groups" (some "start") none).key := by
  have clear {w : String} (letters : w.toList.all fun c => 'a' ≤ c ∧ c ≤ 'z') : Clear w := wordClear letters
  have plain : oddPage.Plain := by
    simp only [Plain,oddPage,texts,Option.toList,List.forall_mem_cons]
    exact ⟨clear rfl,clear rfl,List.forall_mem_nil _⟩
  have plain' : (Query.transactions "groups" (some "start") none).Plain := by
    simp only [Plain,texts,Option.toList,List.forall_mem_cons]
    exact ⟨clear rfl,clear rfl,List.forall_mem_nil _⟩
  obtain ⟨apart,alike⟩ := readsApart plain plain'
  have stored : Key.sanitize 256 (.str oddPage.key) = .ok "group:groups:transactions:start:10" := rfl
  have stored' : Key.sanitize 256 (.str (Query.transactions "groups" (some "start") none).key) =
      .ok "group:groups:transactions:start:10" := rfl
  have same := apart _ _ _ stored stored'
  exact ⟨plain,plain',⟨_,stored,stored'⟩,same,alike same⟩

end Query
end ReadThrough.Ledger
