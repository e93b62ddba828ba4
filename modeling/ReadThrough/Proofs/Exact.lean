import ReadThrough.Proofs.Errands
import ReadThrough.Snapshot

/-! The index of tags in every state a run reaches from the empty store. It lists a key under a tag exactly
if the store holds an entry of the key with the tag, lists it once, and keeps no tag without keys, so that a
snapshot names the tags in use and no others. -/
namespace ReadThrough.Store
open Relation
variable {τ : Type}

/-! An index without blank places. -/

structure Tidy (tagged : Assoc Tag (List String)) : Prop where
  distinct : tagged.Distinct
  used : ∀ tag keys, tagged.get? tag = some keys → keys ≠ [] ∧ keys.Nodup

theorem emptyTidy : Tidy .empty := ⟨Assoc.emptyDistinct,fun _ _ found => by cases found⟩

theorem dropTagTidy {tagged : Assoc Tag (List String)} (tidy : Tidy tagged) (key : String) (tag : Tag) :
    Tidy (dropTag key tagged tag) := by
  unfold dropTag
  cases listed : tagged.get? tag with
  | none => exact tidy
  | some keys =>
    dsimp only
    split
    · exact ⟨Assoc.eraseDistinct tidy.distinct tag,fun t ks found => tidy.used t ks (Assoc.eraseFound found)⟩
    · rename_i left
      refine ⟨Assoc.putDistinct tidy.distinct tag _,fun t ks found => ?_⟩
      rw [Assoc.get?_put] at found
      split at found
      · cases found
        exact ⟨by simpa using left,(tidy.used tag keys listed).2.filter _⟩
      · exact tidy.used t ks found

theorem addTagTidy {tagged : Assoc Tag (List String)} (tidy : Tidy tagged) (key : String) (tag : Tag) :
    Tidy (addTag key tagged tag) := by
  have once : ((tagged.get? tag).getD []).Nodup := by
    cases listed : tagged.get? tag with
    | none => exact List.nodup_nil
    | some keys => exact (tidy.used tag keys listed).2
  refine ⟨Assoc.putDistinct tidy.distinct tag _,fun t ks found => ?_⟩
  rw [addTag,Assoc.get?_put] at found
  split at found
  · cases found
    split
    · rename_i listed
      exact ⟨List.ne_nil_of_mem listed,once⟩
    · rename_i fresh
      refine ⟨by simp,List.nodup_append.mpr ⟨once,by simp,fun k listed k' last same => ?_⟩⟩
      rw [List.mem_singleton.mp last] at same
      exact fresh (same ▸ listed)
  · exact tidy.used t ks found

theorem dropTagsTidy {tagged : Assoc Tag (List String)} (tidy : Tidy tagged) (key : String) (tags : List Tag) :
    Tidy (tags.foldl (dropTag key) tagged) := by
  induction tags generalizing tagged with
  | nil => exact tidy
  | cons tag rest ih => exact ih (dropTagTidy tidy key tag)

theorem addTagsTidy {tagged : Assoc Tag (List String)} (tidy : Tidy tagged) (key : String) (tags : List Tag) :
    Tidy (tags.foldl (addTag key) tagged) := by
  induction tags generalizing tagged with
  | nil => exact tidy
  | cons tag rest ih => exact ih (addTagTidy tidy key tag)

theorem forgottenTidy {s : Store τ} (tidy : Tidy s.tagged) (key : String) : Tidy (s.forgotten key).tagged := by
  unfold forgotten
  split
  · exact dropTagsTidy tidy key _
  · exact tidy

theorem Change.tidy {may : Piece τ → Prop} {s s' : Store τ} (changed : s.Change may s')
    (tidy : Tidy s.tagged) : Tidy s'.tagged := by
  cases changed with
  | counted l m => exact tidy
  | removed allowed => rw [removeKeys]; exact forgottenTidy tidy _
  | emptied allowed => exact emptyTidy
  | unlabelled allowed => exact forgottenTidy tidy _
  | @written key e allowed => exact addTagsTidy (forgottenTidy tidy key) key e.tags

theorem chainTidy {may : Piece τ → Prop} {s s' : Store τ} (chain : ReflTransGen (Change may) s s')
    (tidy : Tidy s.tagged) : Tidy s'.tagged := by
  induction chain with
  | refl => exact tidy
  | tail _ changed ih => exact changed.tidy ih

/-! Exactness. -/

def InUse (s : Store τ) (tag : Tag) : Prop := ∃ key e, s.entries.get? key = some e ∧ tag ∈ e.tags

theorem taggedInUse {s : Store τ} (indexed : s.Indexed) (tidy : Tidy s.tagged) (tag : Tag) :
    tag ∈ s.tagged.keys ↔ s.InUse tag := by
  rw [Assoc.memKeys]
  constructor
  · rintro ⟨keys,listed⟩
    obtain ⟨key,first⟩ := List.exists_mem_of_ne_nil keys (tidy.used tag keys listed).1
    obtain ⟨e,found,carried⟩ := (indexed tag key).mp (by rwa [keysForTag,listed])
    exact ⟨key,e,found,carried⟩
  · rintro ⟨key,e,found,carried⟩
    have named := (indexed tag key).mpr ⟨e,found,carried⟩
    rw [keysForTag] at named
    cases listed : s.tagged.get? tag with
    | none => rw [listed] at named; cases named
    | some keys => exact ⟨keys,rfl⟩

structure Exact [Quantity τ] (s : Store τ) : Prop where
  listed : ∀ tag key, key ∈ s.keysForTag tag ↔ ∃ e, s.entries.get? key = some e ∧ tag ∈ e.tags
  once : ∀ tag, (s.keysForTag tag).Nodup
  used : ∀ tag keys, s.tagged.get? tag = some keys → keys ≠ []
  shown : ∀ now, ∃ tags : List Tag, tags.Nodup ∧ (∀ tag, tag ∈ tags ↔ s.InUse tag) ∧
    ("tags",.dict (tags.map fun tag =>
      (tag.toValue,.list ((sortedTexts (s.keysForTag tag)).map Value.str)))) ∈ s.snapshot now

theorem tidyOnce {s : Store τ} (tidy : Tidy s.tagged) (tag : Tag) : (s.keysForTag tag).Nodup := by
  unfold keysForTag
  cases listed : s.tagged.get? tag with
  | none => exact List.nodup_nil
  | some keys => exact (tidy.used tag keys listed).2

theorem snapshotTags [Quantity τ] {s : Store τ} (distinct : s.tagged.Distinct) (now : τ) :
    ("tags",.dict (s.tagged.keys.map fun tag =>
      (tag.toValue,.list ((sortedTexts (s.keysForTag tag)).map Value.str)))) ∈ s.snapshot now := by
  have same : (s.tagged.keys.map fun tag =>
      (tag.toValue,Value.list ((sortedTexts (s.keysForTag tag)).map Value.str))) =
      s.tagged.entries.map fun e => (e.1.toValue,.list ((sortedTexts e.2).map Value.str)) := by
    rw [Assoc.keys,List.map_map]
    refine List.map_congr_left fun e mem => ?_
    have found : s.tagged.get? e.1 = some e.2 := Assoc.memGet distinct mem
    simp only [Function.comp_apply,keysForTag,found,Option.getD_some]
  rw [same]
  exact List.mem_cons_of_mem _ List.mem_cons_self

variable [Quantity τ]

theorem exactTags {capacity : Int} {ttlFor : String → τ} {gate : Gate} {limiter : Limiter τ} {meter : Meter τ}
    {s : Store τ} (made : create capacity ttlFor gate limiter meter = .ok s) (run : List (τ × Errand τ))
    (labelled : ∀ m ∈ run, m.2.Labelled) : (s.after run).Exact := by
  have chain := afterFaithful s run labelled
  obtain rfl := createOk made
  have indexed : (after _ run).Indexed := chainIndexed (fun _ bad => bad) chain fun tag key => by
    simp [keysForTag]
  have tidy : Tidy (after _ run).tagged := chainTidy chain emptyTidy
  exact ⟨indexed,tidyOnce tidy,fun tag keys listed => (tidy.used tag keys listed).1,
    fun now => ⟨_,tidy.distinct,taggedInUse indexed tidy,snapshotTags tidy.distinct now⟩⟩

theorem crowdedExact : (∀ m ∈ crowded, m.2.Labelled) ∧ (narrowStore.after crowded).Exact ∧
    (narrowStore.after crowded).keysForTag (.text "x") = ["c"] ∧
    (narrowStore.after crowded).keysForTag (.text "y") = [] := by
  have labelled : ∀ m ∈ crowded, m.2.Labelled := by
    simp [crowded,Errand.Labelled,Options.Labelled,tagging]
  have made : create 1 narrowStore.ttlFor narrowStore.gate narrowStore.limiter narrowStore.meter =
      .ok narrowStore := rfl
  exact ⟨labelled,exactTags made crowded labelled,by decide +kernel,by decide +kernel⟩

end ReadThrough.Store
