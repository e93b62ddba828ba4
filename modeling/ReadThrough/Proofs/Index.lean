import ReadThrough.Proofs.Moves
import ReadThrough.Proofs.Table
import ReadThrough.Store.Sweep

/-! The store piece by piece, and its index of tags. Every operation on the store is a chain of a few
kinds of change, also where it fails. The index lists a key under a tag exactly if the entry of the
key carries the tag, and every change keeps it so but one: a write whose tags are no tags has taken
the old entry out of the index before it fails. -/
namespace ReadThrough.Store
open Relation
variable {τ : Type}

inductive Piece (τ : Type) where
  | removed (key : String)
  | emptied
  | unlabelled (key : String)
  | written (key : String) (e : Entry τ)

def forgotten (s : Store τ) (key : String) : Store τ :=
  match s.entries.get? key with
  | some e => s.untag key e.tags
  | none => s

inductive Change (may : Piece τ → Prop) (s : Store τ) : Store τ → Prop where
  | counted (l : Limiter τ) (m : Meter τ) : Change may s { s with limiter := l, meter := m }
  | removed {key : String} (allowed : may (.removed key)) : Change may s (s.remove key).2
  | emptied (allowed : may .emptied) :
      Change may s { s with entries := .empty, tagged := .empty }
  | unlabelled {key : String} (allowed : may (.unlabelled key)) : Change may s (s.forgotten key)
  | written {key : String} {e : Entry τ} (allowed : may (.written key e)) :
      Change may s ((s.forgotten key).insert key e)

def Still : Piece τ → Prop := fun _ => False

def Removals : Piece τ → Prop
  | .removed _ => True
  | _ => False

theorem Change.mono {may might : Piece τ → Prop} (wider : ∀ p, may p → might p) {s s' : Store τ}
    (changed : s.Change may s') : s.Change might s' := by
  cases changed with
  | counted l m => exact .counted l m
  | removed allowed => exact .removed (wider _ allowed)
  | emptied allowed => exact .emptied (wider _ allowed)
  | unlabelled allowed => exact .unlabelled (wider _ allowed)
  | written allowed => exact .written (wider _ allowed)

theorem chainMono {may might : Piece τ → Prop} (wider : ∀ p, may p → might p) {s s' : Store τ}
    (chain : ReflTransGen (Change may) s s') : ReflTransGen (Change might) s s' :=
  ReflTransGen.mono (fun _ _ => Change.mono wider) _ _ chain

@[simp] theorem forgottenGate (s : Store τ) (key : String) : (s.forgotten key).gate = s.gate := by
  unfold forgotten
  split <;> rfl

theorem Change.gate {may : Piece τ → Prop} {s s' : Store τ} (changed : s.Change may s') :
    s'.gate = s.gate := by
  cases changed with
  | counted l m => rfl
  | removed allowed => unfold remove; split <;> rfl
  | emptied allowed => rfl
  | unlabelled allowed => exact forgottenGate s _
  | written allowed => exact forgottenGate s _

theorem chainGate {may : Piece τ → Prop} {s s' : Store τ} (chain : ReflTransGen (Change may) s s') :
    s'.gate = s.gate := by
  induction chain with
  | refl => rfl
  | tail _ changed ih => exact changed.gate.trans ih

/-! The index under one tag. -/

theorem dropTagKeys (key : String) (tagged : Assoc Tag (List String)) (tag t : Tag) :
    ((dropTag key tagged tag).get? t).getD [] =
      if tag = t then ((tagged.get? t).getD []).filter (· ≠ key) else (tagged.get? t).getD [] := by
  unfold dropTag
  cases found : tagged.get? tag with
  | none =>
    by_cases same : tag = t
    · subst same; simp [found]
    · simp [same]
  | some keys =>
    by_cases same : tag = t
    · subst same
      by_cases none : (keys.filter (· ≠ key)).isEmpty = true
      · simp only [none,if_true,Assoc.get?_erase,found,Option.getD_some]
        simpa using none
      · simp only [if_neg none,Assoc.get?_put,found,Option.getD_some,if_true]
    · by_cases none : (keys.filter (· ≠ key)).isEmpty = true
      · simp only [none,if_true,Assoc.get?_erase,same,if_false]
      · simp only [if_neg none,Assoc.get?_put,same,if_false]

theorem addTagKeys (key : String) (tagged : Assoc Tag (List String)) (tag t : Tag) (k : String) :
    k ∈ ((addTag key tagged tag).get? t).getD [] ↔
      k ∈ (tagged.get? t).getD [] ∨ k = key ∧ tag = t := by
  simp only [addTag,Assoc.get?_put]
  by_cases same : tag = t
  · subst same
    simp only [if_true,Option.getD_some,and_true]
    split
    · rename_i listed
      exact ⟨.inl,fun h => h.elim id (fun same => same ▸ listed)⟩
    · simp
  · simp [same]

theorem dropTagsKeys (key : String) (tagged : Assoc Tag (List String)) (tags : List Tag) (t : Tag)
    (k : String) : k ∈ ((tags.foldl (dropTag key) tagged).get? t).getD [] ↔
      k ∈ (tagged.get? t).getD [] ∧ ¬ (k = key ∧ t ∈ tags) := by
  induction tags generalizing tagged with
  | nil => simp
  | cons tag rest ih =>
    rw [List.foldl_cons,ih,dropTagKeys]
    by_cases same : tag = t
    · subst same
      simp only [if_true,List.mem_filter,decide_eq_true_eq,List.mem_cons,true_or,and_true]
      exact ⟨fun h => h.1,fun h => ⟨h,fun other => h.2 other.1⟩⟩
    · simp only [same,if_false,List.mem_cons,Ne.symm same,false_or]

theorem addTagsKeys (key : String) (tagged : Assoc Tag (List String)) (tags : List Tag) (t : Tag)
    (k : String) : k ∈ ((tags.foldl (addTag key) tagged).get? t).getD [] ↔
      k ∈ (tagged.get? t).getD [] ∨ k = key ∧ t ∈ tags := by
  induction tags generalizing tagged with
  | nil => simp
  | cons tag rest ih =>
    rw [List.foldl_cons,ih,addTagKeys,or_assoc,← and_or_left,List.mem_cons,@eq_comm _ t]

/-! Entries and index after a change. -/

@[simp] theorem forgottenEntries (s : Store τ) (key : String) :
    (s.forgotten key).entries = s.entries := by
  unfold forgotten
  split <;> rfl

theorem forgottenKeys (s : Store τ) (key : String) (tag : Tag) (k : String) :
    k ∈ (s.forgotten key).keysForTag tag ↔
      k ∈ s.keysForTag tag ∧ ¬ (k = key ∧ ∃ e, s.entries.get? key = some e ∧ tag ∈ e.tags) := by
  unfold forgotten
  split
  · rename_i e found
    simp only [keysForTag,untag,dropTagsKeys,found,Option.some.injEq,exists_eq_left']
  · rename_i absent
    simp [absent]

theorem removeGet (s : Store τ) (key k : String) :
    (s.remove key).2.entries.get? k = if key = k then none else s.entries.get? k := by
  unfold remove
  split
  · rename_i absent
    by_cases same : key = k
    · simp [← same,absent]
    · simp [same]
  · exact Assoc.get?_erase s.entries key k

theorem removeKeys (s : Store τ) (key : String) :
    (s.remove key).2.tagged = (s.forgotten key).tagged := by
  unfold remove forgotten
  cases s.entries.get? key <;> rfl

theorem removeAllCons (s : Store τ) (key : String) (rest : List String) :
    (s.removeAll (key :: rest)).2 = ((s.remove key).2.removeAll rest).2 := by
  simp only [removeAll]
  split <;> rename_i removed <;> rw [removed]

theorem removeAllGet (s : Store τ) (keys : List String) (k : String) :
    (s.removeAll keys).2.entries.get? k = if k ∈ keys then none else s.entries.get? k := by
  induction keys generalizing s with
  | nil => simp [removeAll]
  | cons key rest ih =>
    rw [removeAllCons,ih,removeGet]
    by_cases same : key = k
    · simp [same]
    · by_cases later : k ∈ rest <;> simp [later,same,Ne.symm same]

theorem Change.entries {may : Piece τ → Prop} {s s' : Store τ} (changed : s.Change may s') {k : String}
    {e : Entry τ} (found : s'.entries.get? k = some e) :
    s.entries.get? k = some e ∨ may (.written k e) := by
  cases changed with
  | counted l m => exact .inl found
  | @removed key allowed =>
    rw [removeGet] at found
    split at found
    · cases found
    · exact .inl found
  | emptied allowed => cases found
  | unlabelled allowed => exact .inl (by simpa using found)
  | @written key e' allowed =>
    simp only [insert,forgottenEntries,Assoc.get?_put] at found
    split at found
    · rename_i same
      cases found
      exact .inr (same ▸ allowed)
    · exact .inl found

theorem chainEntries {may : Piece τ → Prop} {s s' : Store τ} (chain : ReflTransGen (Change may) s s')
    {k : String} {e : Entry τ} (found : s'.entries.get? k = some e) :
    s.entries.get? k = some e ∨ may (.written k e) := by
  induction chain with
  | refl => exact .inl found
  | tail _ changed ih =>
    rcases changed.entries found with before | allowed
    · exact ih before
    · exact .inr allowed

theorem chainStill {s s' : Store τ} (chain : ReflTransGen (Change Still) s s') :
    ∃ l m, s' = { s with limiter := l, meter := m } := by
  induction chain with
  | refl => exact ⟨s.limiter,s.meter,rfl⟩
  | tail _ changed ih =>
    obtain ⟨l,m,rfl⟩ := ih
    cases changed with
    | counted l m => exact ⟨l,m,rfl⟩
    | removed allowed => exact allowed.elim
    | emptied allowed => exact allowed.elim
    | unlabelled allowed => exact allowed.elim
    | written allowed => exact allowed.elim

theorem removeDistinct {s : Store τ} (distinct : s.entries.Distinct) (key : String) :
    (s.remove key).2.entries.Distinct := by
  unfold remove
  split
  · exact distinct
  · exact Assoc.eraseDistinct distinct key

theorem chainDistinct {may : Piece τ → Prop} {s s' : Store τ} (chain : ReflTransGen (Change may) s s')
    (distinct : s.entries.Distinct) : s'.entries.Distinct := by
  induction chain with
  | refl => exact distinct
  | tail _ changed ih =>
    cases changed with
    | counted l m => exact ih
    | removed allowed => exact removeDistinct ih _
    | emptied allowed => exact Assoc.emptyDistinct
    | unlabelled allowed => simpa using ih
    | @written key e allowed =>
      rw [insert,forgottenEntries]
      exact Assoc.putDistinct ih key e

/-! The index and the entries agree. -/

def Indexed (s : Store τ) : Prop :=
  ∀ tag key, key ∈ s.keysForTag tag ↔ ∃ e, s.entries.get? key = some e ∧ tag ∈ e.tags

theorem Change.indexed {may : Piece τ → Prop} (labelled : ∀ key, ¬ may (.unlabelled key))
    {s s' : Store τ} (changed : s.Change may s') (indexed : s.Indexed) : s'.Indexed := by
  cases changed with
  | counted l m => exact indexed
  | @removed key allowed =>
    intro tag k
    have listed : k ∈ (s.remove key).2.keysForTag tag ↔ k ∈ (s.forgotten key).keysForTag tag := by
      simp only [keysForTag,removeKeys]
    rw [listed,forgottenKeys,indexed tag k,removeGet]
    by_cases same : key = k
    · subst same; simp
    · simp [same,Ne.symm same]
  | emptied allowed =>
    intro tag k
    simp [keysForTag]
  | @unlabelled key allowed => exact absurd allowed (labelled key)
  | @written key e allowed =>
    -- the entry that is replaced has left the index, so that of the key only new tags remain
    intro tag k
    have listed : k ∈ ((s.forgotten key).insert key e).keysForTag tag ↔
        k ∈ (s.forgotten key).keysForTag tag ∨ k = key ∧ tag ∈ e.tags :=
      addTagsKeys key (s.forgotten key).tagged e.tags tag k
    rw [listed,forgottenKeys,indexed tag k]
    simp only [insert,forgottenEntries,Assoc.get?_put]
    by_cases same : key = k
    · subst same
      simp only [true_and,and_not_self_iff,false_or,if_true,Option.some.injEq,exists_eq_left']
    · simp [same,Ne.symm same]

theorem chainIndexed {may : Piece τ → Prop} (labelled : ∀ key, ¬ may (.unlabelled key))
    {s s' : Store τ} (chain : ReflTransGen (Change may) s s') (indexed : s.Indexed) : s'.Indexed := by
  induction chain with
  | refl => exact indexed
  | tail _ changed ih => exact changed.indexed labelled ih

end ReadThrough.Store
