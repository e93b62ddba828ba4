import ReadThrough.Proofs.Joiners
import ReadThrough.Proofs.Sweeps

/-! Invalidation by ledger entity. Filling the id into a template gives the tag that is built on the id, so an
invalidation goes by built tags: it drops the entries that carry one, by itself and under the coordinator, and there
it detaches the fetches and refreshes that carry one or run for the key of such an entry, and no other. Like every
invalidation by tags it misses an entry that the index has lost. -/
namespace ReadThrough

namespace Text
variable {part new before rest whole : List Char} {c : Char}

theorem replacePassed (passed : List Char) :
    replaceFrom part new passed.length (passed ++ rest) = replaceFrom part new 0 rest := by
  induction passed with
  | nil => rfl
  | cons c passed ih => exact ih

theorem replaceCopy (filled : part ≠ []) : replace part new (part ++ rest) = new ++ replace part new rest := by
  cases part with
  | nil => exact absurd rfl filled
  | cons c tail =>
    have copy : (c :: tail).isPrefixOf (c :: (tail ++ rest)) = true :=
      List.isPrefixOf_iff_prefix.mpr (List.prefix_append (c :: tail) rest)
    simp only [replace,List.cons_append,replaceFrom,copy,if_true,List.length_cons,Nat.add_sub_cancel,replacePassed]

theorem replaceApart (first : part.head? = some c) (apart : c ∉ before) :
    replace part new (before ++ rest) = before ++ replace part new rest := by
  induction before with
  | nil => rfl
  | cons b before ih =>
    obtain ⟨other,apart⟩ := not_or.mp (mt List.mem_cons.mpr apart)
    have missed : part.isPrefixOf (b :: (before ++ rest)) = false := by
      cases part with
      | nil => cases first
      | cons c' tail =>
        cases first
        simp [List.isPrefixOf,other]
    have step := ih apart
    simp only [replace] at step
    simp [replace,replaceFrom,missed,step]

theorem containsIff : contains whole part = true ↔ part <:+: whole := by
  induction whole with
  | nil => simp [contains]
  | cons c rest ih => simp [contains,ih,List.infix_cons_iff]

end Text

namespace Ledger
variable {id : Option Value} {start template : String}

theorem expandBuilt (apart : '\x7b' ∉ start.toList) :
    Entity.expand id (start ++ Entity.mark) = id.map fun v => start ++ v.display := by
  have marked : Text.contains (start ++ Entity.mark).toList Entity.mark.toList = true := by
    rw [Text.containsIff,String.toList_append]
    exact List.infix_append_right
  have filled (text : List Char) : Text.replace Entity.mark.toList text (start.toList ++ Entity.mark.toList) =
      start.toList ++ text := by
    have copy := @Text.replaceCopy Entity.mark.toList text [] (by decide)
    rw [List.append_nil] at copy
    rw [Text.replaceApart rfl apart,copy]
    simp [Text.replace,Text.replaceFrom]
  rw [Entity.expand,if_pos marked]
  simp [filled]

theorem expandPlain (plain : '\x7b' ∉ template.toList) : Entity.expand id template = some template := by
  have unmarked : Text.contains template.toList Entity.mark.toList = false := by
    refine Bool.eq_false_iff.mpr fun marked => plain ?_
    exact (Text.containsIff.mp marked).subset (by decide)
  simp [Entity.expand,unmarked]

namespace Entity

def stands : Entity → Option Value → List String
  | group,id => (id.map groupTag).toList ++ [groupsTag]
  | user,id => (id.map userTag).toList
  | transaction,id => transactionsTag :: (id.map groupTag).toList
  | groups,_ => [groupsTag]

theorem tagsStand (kind : Entity) (id : Option Value) : kind.tags id = kind.stands id := by
  have group : expand id (groupTag (.str mark)) = id.map groupTag := expandBuilt (by decide)
  have user : expand id (userTag (.str mark)) = id.map userTag := expandBuilt (by decide)
  have groups : expand id groupsTag = some groupsTag := expandPlain (by decide)
  have transactions : expand id transactionsTag = some transactionsTag := expandPlain (by decide)
  cases kind <;> cases id <;> simp [tags,templates,stands,group,user,groups,transactions]

end Entity

theorem entityTags {kind : String} {e : Entity} (named : Entity.ofName? kind = some e) (id : Option Value) :
    tagsForEntity kind id = .ok (e.stands id) := by
  simp [tagsForEntity,named,Entity.tagsStand]

end Ledger

variable {τ : Type} {tags : List Tag} {key : String} {n : Nat} {t : Task τ}

/-! Detaching. -/

def Task.detached (t : Task τ) : Task τ := { t with superseded := true }

theorem Task.detachedOld (old : t.superseded = true) : t.detached = t := by
  cases t
  simp_all [detached]

namespace Coordinator
open Relation
variable {c : Coordinator τ}

theorem supersededTasks (c : Coordinator τ) (task n : Nat) : (c.supersedeTask task).tasks.get? n =
    if task = n then (c.tasks.get? n).map Task.detached else c.tasks.get? n := Assoc.getAdjust c.tasks task n _

theorem detachFetchTasks (c : Coordinator τ) (key : String) (n : Nat) : (c.detachFetch key).tasks.get? n =
    if c.slots.get? key = some n then (c.tasks.get? n).map Task.detached else c.tasks.get? n := by
  unfold detachFetch
  cases slot : c.slots.get? key with
  | none => simp
  | some m => simp [supersededTasks]

theorem detachRefreshTasks (c : Coordinator τ) (key : String) (n : Nat) : (c.detachRefresh key).tasks.get? n =
    if c.refreshing.get? key = some n then (c.tasks.get? n).map Task.detached else c.tasks.get? n := by
  unfold detachRefresh
  cases registered : c.refreshing.get? key with
  | none => simp
  | some m => simp [supersededTasks]

theorem foldDetached {f : Coordinator τ → String → Coordinator τ} {table : Coordinator τ → Assoc String Nat}
    (small : ∀ c k n, (f c k).tasks.get? n =
      if (table c).get? k = some n then (c.tasks.get? n).map Task.detached else c.tasks.get? n)
    (listed : ∀ c k key, (table (f c k)).get? key = (table c).get? key ∨ k = key ∧ (table (f c k)).get? key = none)
    (keys : List String) (c : Coordinator τ) (n : Nat) : (keys.foldl f c).tasks.get? n =
      if ∃ key ∈ keys, (table c).get? key = some n then (c.tasks.get? n).map Task.detached else c.tasks.get? n := by
  induction keys generalizing c with
  | nil => simp
  | cons k rest ih =>
    have twice : Task.detached ∘ Task.detached = (Task.detached : Task τ → Task τ) := rfl
    have same (other : (table c).get? k ≠ some n) (key : String) :
        (table (f c k)).get? key = some n ↔ (table c).get? key = some n := by
      rcases listed c k key with same | ⟨rfl,gone⟩
      · rw [same]
      · simp [gone,other]
    rw [List.foldl_cons,ih,small]
    by_cases mine : (table c).get? k = some n
    · simp [mine,twice]
    · simp [mine,same mine]

theorem affectedIff {table : Assoc String Nat} {own : Task τ → Prop} (distinct : table.Distinct)
    (listed : ∀ key, table.get? key = some n ↔ c.tasks.Holds n fun t => t.key = key ∧ own t)
    (p : String → Task τ → Bool) (found : c.tasks.get? n = some t) :
    (∃ key ∈ c.affected table p, table.get? key = some n) ↔ own t ∧ p t.key t := by
  constructor
  · rintro ⟨key,mem,place⟩
    obtain ⟨t',found',rfl,mine⟩ := (listed key).mp place
    cases found.symm.trans found'
    exact ⟨mine,affectedHit distinct place found mem⟩
  · rintro ⟨mine,hit⟩
    have place := (listed t.key).mpr ⟨t,found,rfl,mine⟩
    exact ⟨t.key,affectedMem place found hit,place⟩

theorem fetchesTasks (orderly : c.Orderly) (p : String → Task τ → Bool) (n : Nat) :
    (c.detachFetches p).tasks.get? n =
      (c.tasks.get? n).map fun t => if t.purpose = .fetch ∧ p t.key t then t.detached else t := by
  have listed (key : String) : c.slots.get? key = some n ↔
      c.tasks.Holds n fun t => t.key = key ∧ t.purpose = .fetch ∧ t.superseded = false := by
    rw [orderly.slots]
    simp only [Assoc.Holds,Task.Flies]
    grind
  have freed (c : Coordinator τ) (k key : String) : (c.detachFetch k).slots.get? key = c.slots.get? key ∨
      k = key ∧ (c.detachFetch k).slots.get? key = none := by
    rw [detachFetchFrees]
    by_cases same : k = key <;> simp [same]
  rw [detachFetches,foldDetached detachFetchTasks freed]
  cases found : c.tasks.get? n with
  | none => simp
  | some t =>
    simp only [affectedIff orderly.once.1 listed p found]
    -- a fetch that was superseded before is as if it were detached now
    cases old : t.superseded with
    | false => by_cases hit : t.purpose = .fetch ∧ p t.key t <;> simp [hit]
    | true => simp [Task.detachedOld old]

theorem refreshesTasks (orderly : c.Orderly) (p : String → Task τ → Bool) (n : Nat) :
    (c.detachRefreshes p).2.tasks.get? n =
      (c.tasks.get? n).map fun t => if t.purpose = .refresh ∧ p t.key t then t.detached else t := by
  have listed (key : String) : c.refreshing.get? key = some n ↔
      c.tasks.Holds n fun t => t.key = key ∧ t.purpose = .refresh := by
    rw [orderly.refreshing]
    simp only [Assoc.Holds,Task.Renews]
    grind
  have kept (c : Coordinator τ) (k key : String) : (c.detachRefresh k).refreshing.get? key = c.refreshing.get? key ∨
      k = key ∧ (c.detachRefresh k).refreshing.get? key = none := .inl (by rw [detachRefreshRegistered])
  rw [detachRefreshesTasks,foldDetached detachRefreshTasks kept]
  cases found : c.tasks.get? n with
  | none => simp
  | some t =>
    simp only [affectedIff orderly.once.2.1 listed p found]
    by_cases hit : t.purpose = .refresh ∧ p t.key t <;> simp [hit]

/-- The tasks that an invalidation by tags is meant for: those that carry one of them, and those under the key of an
entry that is listed under one. -/
def Reaches (c : Coordinator τ) (tags : List Tag) (t : Task τ) : Prop :=
  ∃ tag ∈ tags, tag ∈ t.tags ∨ t.key ∈ c.store.keysForTag tag

instance (c : Coordinator τ) (tags : List Tag) (t : Task τ) : Decidable (c.Reaches tags t) :=
  inferInstanceAs (Decidable (∃ tag ∈ tags, tag ∈ t.tags ∨ t.key ∈ c.store.keysForTag tag))

theorem reachesIff : ((c.store.keysForTags tags).contains t.key || t.tags.any tags.contains) = true ↔
    c.Reaches tags t := by
  simp only [Bool.or_eq_true,List.contains_iff_mem,List.any_eq_true,Store.keysForTags,List.mem_eraseDups,
    List.mem_flatMap,Reaches]
  grind

structure Abandoned [Quantity τ] (c : Coordinator τ) (n : Nat) : Prop where
  silent : ∀ later now s, s.carries = some n →
    ((c.used later).step now s).store.entries = (c.used later).store.entries ∧
      ((c.used later).step now s).store.tagged = (c.used later).store.tagged
  unjoined : ∀ later now caller raw r isNew c', fetch now caller raw r (c.used later) ≠ (.ok (.waits n isNew),c')

structure Sheds [Quantity τ] (tags : List Tag) (c m : Coordinator τ) : Prop where
  tasks : ∀ n, m.tasks.get? n = (c.tasks.get? n).map fun t => if c.Reaches tags t then t.detached else t
  slots : ∀ key n, m.slots.get? key = some n ↔ c.slots.get? key = some n ∧ c.tasks.Holds n (¬ c.Reaches tags ·)
  abandoned : ∀ n, c.tasks.Holds n (c.Reaches tags) → m.Abandoned n

variable [Quantity τ]

theorem mutatedStore (now : τ) (tags : List Tag) (c : Coordinator τ) :
    (mutated now tags c).1 = (Store.sweepTags now tags c.store).1 ∧
      (mutated now tags c).2.store = (Store.sweepTags now tags c.store).2 := by
  have reached : mutated now tags c = inStore (Store.sweepTags now tags)
      ((c.detachFetches fun k t => (c.store.keysForTags tags).contains k ||
        t.tags.any tags.contains).supersede (c.store.keysForTags tags) tags).2 := rfl
  rw [reached,inStore,Op.within,supersede,detachedStore]
  exact ⟨rfl,rfl⟩

theorem mutatedTasks (orderly : c.Orderly) (now : τ) (tags : List Tag) (n : Nat) :
    (mutated now tags c).2.tasks.get? n =
      (c.tasks.get? n).map fun t => if c.Reaches tags t then t.detached else t := by
  let p (k : String) (t : Task τ) : Bool := (c.store.keysForTags tags).contains k || t.tags.any tags.contains
  have reached : (mutated now tags c).2.tasks = ((c.detachFetches p).detachRefreshes p).2.tasks := rfl
  rw [reached,refreshesTasks (chainOrderly (fetchesOnward c p) orderly),fetchesTasks orderly,Option.map_map]
  refine congrArg (fun f => Option.map f _) (funext fun t => ?_)
  have hit : p t.key t = true ↔ c.Reaches tags t := reachesIff
  have blind : p t.detached.key t.detached = p t.key t := rfl
  cases purpose : t.purpose <;> by_cases reaches : c.Reaches tags t <;>
    simp_all [Task.detached]

theorem supersededAbandoned (orderly : c.Orderly) (known : n < c.nextTask)
    (old : ∀ t, c.tasks.get? n = some t → t.superseded = true) : c.Abandoned n := by
  refine ⟨fun later now s carries => supersededSilent carries fun t' found => ?_,?_⟩
  · obtain ⟨t,before,follows⟩ := (usedOnward c later).tasks n t' known found
    exact follows.2 (old t before)
  · intro later now caller raw r isNew c' waits
    obtain ⟨k,-,slot,orderly,onward⟩ := fetchSlot (usedOrderly orderly later) waits
    obtain ⟨t',found,-,-,current⟩ := (orderly.slots k n).mp slot
    obtain ⟨t,before,follows⟩ := ((usedOnward c later).trans onward).tasks n t' known found
    cases current.symm.trans (follows.2 (old t before))

theorem mutatedSheds (orderly : c.Orderly) (now : τ) (tags : List Tag) :
    Sheds tags c (mutated now tags c).2 := by
  have chain := c.stepTurns now (.mutated tags)
  have orderly' : (mutated now tags c).2.Orderly := chainOrderly chain orderly
  refine ⟨mutatedTasks orderly now tags,fun key n => ?_,fun n holds => ?_⟩
  · rw [orderly'.slots,orderly.slots,Assoc.Holds,mutatedTasks orderly]
    cases found : c.tasks.get? n with
    | none => simp [Assoc.Holds,found]
    | some t => by_cases reaches : c.Reaches tags t <;> simp [Assoc.Holds,found,reaches,Task.Flies,Task.detached]
  · obtain ⟨t,found,reaches⟩ := holds
    have known := Nat.lt_of_lt_of_le (orderly.numbered n t found) (chainOnward chain).next
    refine supersededAbandoned orderly' known fun t' found' => ?_
    rw [mutatedTasks orderly,found,Option.map_some,if_pos reaches] at found'
    cases found'
    rfl

/-! In use. -/

variable {capacity : Int} {ttlFor : String → τ} {gate : Gate} {limiter : Limiter τ} {meter : Meter τ}
  {store : Store τ} {rule : BreakerRule τ} {service : Service τ} {toleratesStale refusesSensitive : Bool} {run : List (τ × Use τ)}

theorem entitySweeps {kind : String} {id : Option Value} {tags : List String}
    (named : Ledger.tagsForEntity kind id = .ok tags) {now : τ} :
    Store.sweepEntity now kind id = Store.sweepTags now (tags.map .text) := by
  rw [Store.sweepEntity,named]
  rfl

theorem entityMutates {kind : String} {id : Option Value} {tags : List String}
    (named : Ledger.tagsForEntity kind id = .ok tags) {now : τ} :
    mutatedEntity now kind id = mutated now (tags.map .text) := by
  rw [mutatedEntity,named]
  rfl

/-- An invalidation by entity goes by tags. The store drops what is listed under one of them, by itself and under the
coordinator, which detaches the tasks that they reach. -/
structure GoesBy (c : Coordinator τ) (now : τ) (kind : String) (id : Option Value) (tags : List String) : Prop where
  named : Ledger.tagsForEntity kind id = .ok tags
  swept : c.store.Swept now "tag" (fun e => tags.any fun tag => decide (e.1 ∈ c.store.keysForTag (.text tag)))
    (Store.sweepEntity now kind id c.store)
  alike : (mutatedEntity now kind id c).1 = (Store.sweepEntity now kind id c.store).1 ∧
    (mutatedEntity now kind id c).2.store = (Store.sweepEntity now kind id c.store).2
  sheds : Sheds (tags.map .text) c (mutatedEntity now kind id c).2

theorem entityGoesBy (orderly : c.Orderly) (sound : c.store.Sound) (distinct : c.store.entries.Distinct) (now : τ)
    {kind : String} {id : Option Value} {tags : List String} (named : Ledger.tagsForEntity kind id = .ok tags) :
    c.GoesBy now kind id tags := by
  refine ⟨named,?_,?_,?_⟩
  · rw [entitySweeps named]
    refine Store.removeManySwept sound distinct now "tag" fun e mem => ?_
    simp [Store.keysForTags]
  · rw [entitySweeps named,entityMutates named]
    exact mutatedStore now _ c
  · rw [entityMutates named]
    exact mutatedSheds orderly now _

/-- In every run an invalidation by entity goes by the tags that are built on the id, whatever the id. The store lists
no entry under a tag that it does not carry; and what is dropped is just what carries one of the tags exactly if it
lists each entry that does, as it is if no write has failed on its tags over an entry that was listed. -/
theorem entityDropped (made : Store.create capacity ttlFor gate limiter meter = .ok store)
    (within : ∀ u ∈ run, u.2.Within fun _ _ => True) {kind : String} {e : Ledger.Entity}
    (named : Ledger.Entity.ofName? kind = some e) (id : Option Value) (now : τ) :
    let c₀ := create store rule service toleratesStale refusesSensitive
    let c := c₀.used run
    c.GoesBy now kind id (e.stands id) ∧
      (∀ tag key, key ∈ c.store.keysForTag tag → ∃ e, c.store.entries.get? key = some e ∧ tag ∈ e.tags) ∧
      (c.store.Swept now "tag" (fun x => (e.stands id).any fun tag => decide (.text tag ∈ x.2.tags))
        (Store.sweepEntity now kind id c.store) ↔ c.store.Covers ((e.stands id).map .text)) ∧
      ((∀ k ∈ c₀.runCalls run, ¬ k.Mislays) → c.store.Covers ((e.stands id).map .text)) := by
  intro c₀ c
  have orderly : c.Orderly :=
    usedOrderly (createOrderly store rule service toleratesStale refusesSensitive) run
  have distinct : c.store.entries.Distinct :=
    (usedStanding Meter.workingAny Meter.lookingAny made rfl within).distinct
  have sound : c.store.Sound := usedSound made rfl within
  have whole := (usedWhole (c := c₀) made rfl within).2
  refine ⟨entityGoesBy orderly sound distinct now (Ledger.entityTags named id),sound,?_,fun none => (whole none).covers _⟩
  rw [entitySweeps (Ledger.entityTags named id),← (Store.sweeping distinct sound).tagsExact now]
  simp only [List.any_map,Function.comp_def]

def oddId : String := "\x7bid\x7d:7"

def oddTag (id : String) : String := Ledger.groupTag (.str id)

def oddDay : List (Number × Use Number) := [
  (.whole 1000,.errand (.set (.str "a") (.int 1) (Store.tagging [oddTag oddId]))),
  (.whole 1000,.step (.set (.str "b") (.int 2) (Store.tagging ["groups","x"]))),
  (.whole 1000,.step (.set (.str "c") (.int 3) (Store.tagging [oddTag Ledger.Entity.mark]))),
  (.whole 1000,.step (.fetch "x" (.str "k") (labelled (oddTag oddId)))),
  (.whole 1000,.step (.fetch "y" (.str "l") (labelled (oddTag Ledger.Entity.mark)))),
  (.whole 1000,.step (.schedule "m" "load" none (.ok [.text "groups"]) none "rpc"))]

theorem oddDropped :
    let c := smallCache.used oddDay
    let m := (mutatedEntity (.whole 1001) "group" (some (.str oddId)) c).2
    Store.create 10 smallStore.ttlFor smallStore.gate smallStore.limiter smallStore.meter = .ok smallStore ∧
      (∀ u ∈ oddDay, u.2.Within fun _ _ => True) ∧ (∀ u ∈ oddDay, u.2.Labelled) ∧
      Ledger.Entity.ofName? "group" = some .group ∧
      c.GoesBy (.whole 1001) "group" (some (.str oddId)) [oddTag oddId,"groups"] ∧
      c.store.Swept (.whole 1001) "tag" (fun x => [oddTag oddId,"groups"].any fun tag => decide (.text tag ∈ x.2.tags))
        (Store.sweepEntity (.whole 1001) "group" (some (.str oddId)) c.store) ∧
      m.store.entries.keys = ["c"] ∧ m.slots.keys = ["l"] ∧ m.tasks.values.map (·.superseded) = [true,false,true] := by
  intro c m
  have made : Store.create 10 smallStore.ttlFor smallStore.gate smallStore.limiter smallStore.meter =
      .ok smallStore := rfl
  have within : ∀ u ∈ oddDay, u.2.Within fun _ _ => True := by simp [oddDay,Use.Within]
  have written : ∀ u ∈ oddDay, u.2.Labelled := by
    simp [oddDay,Use.Labelled,Store.Errand.Labelled,Options.Labelled,Store.tagging]
  have named : Ledger.Entity.ofName? "group" = some .group := rfl
  obtain ⟨goes,-,swept,covers⟩ := entityDropped made within named (some (.str oddId)) (.whole 1001)
  have carried := swept.mpr (covers (labelledWhole _ written))
  exact ⟨made,within,written,named,goes,carried,by decide +kernel,by decide +kernel,by decide +kernel⟩

def mislaidGroup : List (Number × Use Number) := [
  (.whole 1000,.step (.set (.str "k") (.int 1) (Store.tagging ["group:7"]))),
  (.whole 1001,.step (.set (.str "k") (.int 2) nested))]

/-- The entry carries a tag that the group stands for still, and the invalidation of the group leaves it. -/
theorem mislaidUndropped :
    let c := smallCache.used mislaidGroup
    let x := mutatedEntity (.whole 1002) "group" (some (.str "7")) c
    Ledger.tagsForEntity "group" (some (.str "7")) = .ok ["group:7","groups"] ∧
      (c.store.entries.get? "k").map (·.tags) = some [.text "group:7"] ∧ x.1 = .ok 0 ∧
      (x.2.store.entries.get? "k").map (·.tags) = some [.text "group:7"] :=
  ⟨rfl,rfl,rfl,rfl⟩

end Coordinator

end ReadThrough
