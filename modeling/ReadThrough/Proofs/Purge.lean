import Mathlib.Tactic.ByContra
import ReadThrough.Proofs.Sound
import ReadThrough.Proofs.Waiting

/-! Purges. An invalidation, a bust or a clearing drops entries and supersedes, in the same step, every
fetch and refresh under way that would put one back. Since superseding lasts, none of them ever writes,
and since a superseded fetch has no slot, nobody joins it again. An invalidation by tags goes by the index,
and misses an entry that the index has lost. -/
namespace ReadThrough.Coordinator
open Relation
variable {τ : Type}

/-! Detaching. -/

theorem affectedMem {c : Coordinator τ} {table : Assoc String Nat} {p : String → Task τ → Bool}
    {key : String} {n : Nat} {t : Task τ} (listed : table.get? key = some n)
    (found : c.tasks.get? n = some t) (hit : p key t = true) : key ∈ c.affected table p :=
  List.mem_map.mpr ⟨(key,n),List.mem_filter.mpr ⟨Assoc.getMem listed,by simp [found,hit]⟩,rfl⟩

theorem detachFetchFrees (c : Coordinator τ) (key k : String) :
    (c.detachFetch key).slots.get? k = if key = k then none else c.slots.get? k := by
  unfold detachFetch
  split
  · exact Assoc.get?_erase c.slots key k
  · rename_i free
    by_cases same : key = k
    · rw [if_pos same,← same,free]
    · rw [if_neg same]

theorem detachedFree (keys : List String) (c : Coordinator τ) (key : String) :
    (keys.foldl detachFetch c).slots.get? key = if key ∈ keys then none else c.slots.get? key := by
  induction keys generalizing c with
  | nil => simp
  | cons k rest ih =>
    rw [List.foldl_cons,ih,detachFetchFrees]
    by_cases later : key ∈ rest
    · simp [later]
    · by_cases same : k = key
      · simp [same]
      · simp [later,same,Ne.symm same]

def Permit.still (τ : Type) : Permit τ :=
  ⟨fun _ => False,fun _ => False,fun _ => False,Store.Still⟩

theorem fetchesOnward (c : Coordinator τ) (p : String → Task τ → Bool) :
    ReflTransGen (Turn (Permit.still τ)) c (c.detachFetches p) := detachFetchesChain c p

theorem refreshesOnward (c : Coordinator τ) (p : String → Task τ → Bool) :
    ReflTransGen (Turn (Permit.still τ)) c (c.detachRefreshes p).2 := detachRefreshesChain c p

theorem fetchSuperseded {c : Coordinator τ} (orderly : c.Orderly) {p : String → Task τ → Bool} {n : Nat}
    {t t' : Task τ} (found : c.tasks.get? n = some t) (fetches : t.purpose = .fetch)
    (hit : p t.key t = true) (found' : (c.detachFetches p).tasks.get? n = some t') :
    t'.superseded = true := by
  have chain := fetchesOnward c p
  obtain ⟨t₀,before,follows⟩ := (chainOnward chain).tasks n t' (orderly.numbered n t found) found'
  cases found.symm.trans before
  cases old : t.superseded with
  | true => exact follows.2 old
  | false =>
    -- a current fetch has a slot, and the detaching frees it
    have slot := (orderly.slots t.key n).mpr ⟨t,found,fetches,rfl,old⟩
    cases new : t'.superseded with
    | true => rfl
    | false =>
      have slot' := ((chainOrderly chain orderly).slots t.key n).mpr
        ⟨t',found',follows.purpose.trans fetches,follows.key,new⟩
      rw [detachFetches,detachedFree,if_pos (affectedMem slot found hit)] at slot'
      cases slot'

theorem detachRefreshRegistered (c : Coordinator τ) (key : String) :
    (c.detachRefresh key).refreshing = c.refreshing := by
  obtain ⟨ts,q,after⟩ := detachRefreshLeaves c key
  rw [after]

theorem detachedSuperseded (keys : List String) {c : Coordinator τ} (orderly : c.Orderly) {key : String}
    {n : Nat} {t' : Task τ} (registered : c.refreshing.get? key = some n) (mem : key ∈ keys)
    (found' : (keys.foldl detachRefresh c).tasks.get? n = some t') : t'.superseded = true := by
  induction keys generalizing c with
  | nil => cases mem
  | cons k rest ih =>
    have kept : (c.detachRefresh k).refreshing.get? key = some n := by
      rw [detachRefreshRegistered]
      exact registered
    by_cases later : key ∈ rest
    · exact ih (orderly.refreshDetached k) kept later found'
    · have same : key = k := (List.mem_cons.mp mem).resolve_right later
      subst same
      have chain : ReflTransGen (Turn (Permit.still τ)) (c.detachRefresh key)
          (rest.foldl detachRefresh (c.detachRefresh key)) :=
        foldChain (fun _ k => .refreshDetached k) rest _
      have orderly' := orderly.refreshDetached key
      obtain ⟨t,found,-⟩ := (orderly'.refreshing key n).mp kept
      obtain ⟨t₁,found₁,follows⟩ := (chainOnward chain).tasks n t' (orderly'.numbered n t found) found'
      refine follows.2 ?_
      simp only [detachRefresh,registered,supersedeTask,Assoc.getAdjust,if_true] at found₁
      obtain ⟨t₂,-,rfl⟩ := Option.map_eq_some_iff.mp found₁
      rfl

theorem refreshSuperseded {c : Coordinator τ} (orderly : c.Orderly) {p : String → Task τ → Bool} {n : Nat}
    {t t' : Task τ} (found : c.tasks.get? n = some t) (refreshes : t.purpose = .refresh)
    (hit : p t.key t = true) (found' : (c.detachRefreshes p).2.tasks.get? n = some t') :
    t'.superseded = true := by
  have registered := (orderly.refreshing t.key n).mpr ⟨t,found,refreshes,rfl⟩
  rw [detachRefreshesTasks] at found'
  exact detachedSuperseded _ orderly registered (affectedMem registered found hit) found'

theorem bothSuperseded {c : Coordinator τ} (orderly : c.Orderly) {p q : String → Task τ → Bool} {n : Nat}
    {t t' : Task τ} (found : c.tasks.get? n = some t) (fetch : t.purpose = .fetch → p t.key t = true)
    (refresh : t.purpose = .refresh → ∀ t₁, (c.detachFetches p).tasks.get? n = some t₁ → t₁.Follows t →
      q t.key t₁ = true)
    (found' : ((c.detachFetches p).detachRefreshes q).2.tasks.get? n = some t') :
    t'.superseded = true := by
  have first := fetchesOnward c p
  have second := refreshesOnward (c.detachFetches p) q
  have orderly₁ := chainOrderly first orderly
  have next := orderly.numbered n t found
  obtain ⟨t₁,found₁,follows'⟩ := (chainOnward second).tasks n t'
    (Nat.lt_of_lt_of_le next (chainOnward first).next) found'
  obtain ⟨t₀,before,follows⟩ := (chainOnward first).tasks n t₁ next found₁
  cases found.symm.trans before
  cases purpose : t.purpose with
  | fetch => exact follows'.2 (fetchSuperseded orderly found purpose (fetch purpose) found₁)
  | refresh =>
    have hit := refresh purpose t₁ found₁ follows
    rw [← follows.key] at hit
    exact refreshSuperseded orderly₁ found₁ (follows.purpose.trans purpose) hit found'

theorem fetchesStore (c : Coordinator τ) (p : String → Task τ → Bool) : (c.detachFetches p).store = c.store := by
  have one (c : Coordinator τ) (key : String) : (c.detachFetch key).store = c.store := by
    unfold detachFetch
    split <;> rfl
  exact foldKeeps one _ c

theorem refreshesStore (c : Coordinator τ) (p : String → Task τ → Bool) :
    (c.detachRefreshes p).2.store = c.store := by
  obtain ⟨ts,q,after⟩ := detachRefreshesLeave c p
  rw [after]

theorem detachedStore (c : Coordinator τ) (p q : String → Task τ → Bool) :
    ((c.detachFetches p).detachRefreshes q).2.store = c.store :=
  (refreshesStore _ q).trans (fetchesStore c p)

theorem inStoreAfter {α : Type} (x : Op (Store τ) α) (c : Coordinator τ) :
    (inStore x c).2 = { c with store := (x c.store).2 } := rfl

/-! What is dropped. -/

structure Dropped (drops : String → List Tag → Prop) (c m : Coordinator τ) : Prop where
  superseded : ∀ n t t', c.tasks.get? n = some t → drops t.key t.tags → m.tasks.get? n = some t' →
    t'.superseded = true
  swept : ∀ key e, m.store.entries.get? key = some e → ¬ drops key e.tags

theorem Dropped.nothing {drops : String → List Tag → Prop} {c m : Coordinator τ}
    (none : ∀ key tags, ¬ drops key tags) : Dropped drops c m :=
  ⟨fun _ _ _ _ drops => absurd drops (none _ _),fun _ _ _ => none _ _⟩

theorem Dropped.fewer {drops fewer : String → List Tag → Prop} {c m : Coordinator τ}
    (dropped : Dropped drops c m) (within : ∀ key tags, fewer key tags → drops key tags) :
    Dropped fewer c m :=
  ⟨fun n t t' found hit => dropped.superseded n t t' found (within _ _ hit),
    fun key e found hit => dropped.swept key e found (within _ _ hit)⟩

theorem Dropped.unwritten {drops : String → List Tag → Prop} {c m m' : Coordinator τ} {permit : Permit τ}
    (dropped : Dropped drops c m) (orderly : c.Orderly) (first : c.Onward m)
    (chain : ReflTransGen (Turn permit) m m') (unwritten : ∀ key e, ¬ permit.stores (.written key e)) :
    Dropped drops c m' := by
  refine ⟨fun n t t' found hit found' => ?_,fun key e found => ?_⟩
  · have old := Nat.lt_of_lt_of_le (orderly.numbered n t found) first.next
    obtain ⟨t₁,found₁,follows⟩ := (chainOnward chain).tasks n t' old found'
    exact follows.2 (dropped.superseded n t t₁ found hit found₁)
  · rcases Store.chainEntries (chainStore chain) found with before | written
    · exact dropped.swept key e before
    · exact absurd written (unwritten key e)

theorem Dropped.joined {drops : String → List Tag → Prop} {c m c' : Coordinator τ}
    (dropped : Dropped drops c m) (first : c.Onward m) (later : m.Onward c') (orderly : c'.Orderly)
    {key : String} {n : Nat} (slot : c'.slots.get? key = some n) (all : ∀ tags, drops key tags) :
    c.nextTask ≤ n := by
  by_contra older
  have old : n < c.nextTask := Nat.lt_of_not_le older
  obtain ⟨t',found',-,own,current⟩ := (orderly.slots key n).mp slot
  obtain ⟨t₁,found₁,follows'⟩ := later.tasks n t' (Nat.lt_of_lt_of_le old first.next) found'
  obtain ⟨t,found,follows⟩ := first.tasks n t₁ old found₁
  have same : t.key = key := ((follows'.trans follows).key.symm.trans own)
  have superseded := follows'.2 (dropped.superseded n t t₁ found (same ▸ all t.tags) found₁)
  cases superseded.symm.trans current

/-- Carries one of the tags, or lies under the key of a stored entry that does. -/
def Touched (c : Coordinator τ) (tags : List Tag) (key : String) (carried : List Tag) : Prop :=
  (∃ tag ∈ tags, tag ∈ carried) ∨ ∃ e, c.store.entries.get? key = some e ∧ ∃ tag ∈ tags, tag ∈ e.tags

variable [Quantity τ]

theorem bustDropped {c : Coordinator τ} (orderly : c.Orderly) {now : τ} {raw : Value} {key : String}
    (admitted : c.store.gate.admitKey raw = .ok key) :
    Dropped (fun k _ => k = key) c (bust now raw c).2 := by
  have reached : (bust now raw c).2 = (inStore (Store.delete now (.str key))
      ((c.detachFetches fun k _ => k == key).supersede [key] []).2).2 := by
    rw [bust,Op.bind_ok (admitKeyPasses admitted)]
    rfl
  rw [reached,inStoreAfter]
  refine ⟨fun n t t' found same found' => ?_,fun k e found same => ?_⟩
  · subst same
    exact bothSuperseded orderly found (fun _ => by simp) (fun _ _ _ _ => by simp) found'
  · dsimp only at found
    rw [supersede,detachedStore] at found
    exact (Store.deleteGet (Key.sanitizeAgain admitted).2 found).1 same.symm

theorem clearDropped {c : Coordinator τ} (orderly : c.Orderly) (now : τ) :
    Dropped (fun _ _ => True) c (clear now c).2 := by
  have reached : (clear now c).2 = (inStore (Store.clear now)
      ((c.detachFetches fun _ _ => true).detachRefreshes fun _ _ => true).2.clearQueue).2 := rfl
  rw [reached,inStoreAfter]
  refine ⟨fun n t t' found _ found' => ?_,fun k e found => ?_⟩
  · exact bothSuperseded orderly found (fun _ => rfl) (fun _ _ _ _ => rfl) found'
  · dsimp only at found
    rw [Store.clearGet] at found
    cases found

theorem mutatedDropped {c : Coordinator τ} {tags : List Tag} (orderly : c.Orderly) (covers : c.store.Covers tags)
    (now : τ) : Dropped (c.Touched tags) c (mutated now tags c).2 := by
  have reached : (mutated now tags c).2 = (inStore (Store.sweepTags now tags)
      ((c.detachFetches fun k t => (c.store.keysForTags tags).contains k ||
        t.tags.any tags.contains).supersede (c.store.keysForTags tags) tags).2).2 := rfl
  have met : ∀ t : Task τ, c.Touched tags t.key t.tags →
      ((c.store.keysForTags tags).contains t.key || t.tags.any tags.contains) = true := by
    rintro t (⟨tag,named,carried⟩ | ⟨e,held,carried⟩)
    · have any : t.tags.any tags.contains = true :=
        List.any_eq_true.mpr ⟨tag,carried,List.contains_iff_mem.mpr named⟩
      rw [any,Bool.or_true]
    · have listed := covers t.key e held carried
      rw [List.contains_iff_mem.mpr listed,Bool.true_or]
  rw [reached,inStoreAfter]
  refine ⟨fun n t t' found touched found' => ?_,fun k e found touched => ?_⟩
  · refine bothSuperseded orderly found (fun _ => met t touched) (fun _ t₁ _ follows => ?_) found'
    rw [follows.tags]
    exact met t touched
  · dsimp only at found
    rw [supersede,detachedStore] at found
    obtain ⟨before,clean⟩ := Store.sweepTagsGet covers found
    rcases touched with ⟨tag,named,carried⟩ | ⟨e',held,tag,named,carried⟩
    · exact clean tag named carried
    · cases before.symm.trans held
      exact clean tag named carried

theorem mutatedKeysDropped {c : Coordinator τ} (orderly : c.Orderly) (now : τ)
    (matching : String → Bool) : Dropped (fun key _ => matching key = true) c (mutatedKeys now matching c).2 := by
  have reached : (mutatedKeys now matching c).2 = (inStore (Store.sweepKeys now matching)
      ((c.detachFetches fun k _ => matching k).supersede
        ((c.detachFetches fun k _ => matching k).refreshingKeys.filter matching) []).2).2 := rfl
  rw [reached,inStoreAfter]
  refine ⟨fun n t t' found hit found' => ?_,fun k e found hit => ?_⟩
  · refine bothSuperseded orderly found (fun _ => hit) (fun refreshes t₁ found₁ follows => ?_) found'
    -- the keys to supersede are read off the table of refreshes
    have orderly₁ := chainOrderly (fetchesOnward c fun k _ => matching k) orderly
    have registered := (orderly₁.refreshing t.key n).mpr
      ⟨t₁,found₁,follows.purpose.trans refreshes,follows.key⟩
    have busy : (c.detachFetches fun k _ => matching k).isRefreshing t.key = true := by
      simp [isRefreshing,Assoc.has,registered]
    have listed := List.mem_filter.mpr ⟨refreshingKeysMem.mpr busy,hit⟩
    rw [List.contains_iff_mem.mpr listed,Bool.true_or]
  · dsimp only at found
    rw [supersede,detachedStore] at found
    cases hit.symm.trans (Store.sweepKeysGet found).2

theorem fetchDropped {c : Coordinator τ} (orderly : c.Orderly) {now : τ} {caller key : String}
    {raw : Value} {r : Request τ} (admitted : c.store.gate.admitKey raw = .ok key) (busts : r.bustCache = true)
    (given : ∀ why, r.tags ≠ some (.error why)) :
    Dropped (fun k _ => k = key) c (fetch now caller raw r c).2 := by
  have first : ReflTransGen (Turn ⟨fun _ => False,fun _ => False,fun _ => False,Store.Removals⟩) c
      (bust now (.str key) c).2 := bustChain (fun _ removal => removal) now (.str key) c
  have busted := @bustDropped τ _ c orderly now (.str key) key (Key.sanitizeAgain admitted).2
  rcases @fetchAfter τ ⟨fun _ => True,fun _ => False,fun _ => True,Store.Still⟩ _ now caller key r c
    (fun _ _ => trivial) trivial raw admitted with ⟨-,why,bad⟩ | chain
  · exact absurd bad (given why)
  · rw [if_pos busts] at chain
    exact busted.unwritten orderly (chainOnward first) chain fun _ _ written => written

/-- The entries that a step drops, by key and tags, seen from the state that it finds. -/
def Drops (c : Coordinator τ) : Step τ → String → List Tag → Prop
  | .mutated tags, key, carried => c.Touched tags key carried
  | .mutatedEntity kind id, key, carried =>
    ∃ tags, Ledger.tagsForEntity kind id = .ok tags ∧ c.Touched (tags.map Tag.text) key carried
  | .mutatedKeys matching, key, _ => matching key = true
  | .bust raw, key, _ => c.store.gate.admitKey raw = .ok key
  | .fetch _ raw r, key, _ => r.bustCache = true ∧ c.store.gate.admitKey raw = .ok key ∧
    ∀ why, r.tags ≠ some (.error why)
  | .clear, _, _ => True
  | _, _, _ => False

omit [Quantity τ] in
theorem dropsAny {c : Coordinator τ} {s : Step τ} {key : String} (drops : c.Drops s key [])
    (tags : List Tag) : c.Drops s key tags := by
  have touched : ∀ some, c.Touched some key [] → c.Touched some key tags := by
    rintro some (⟨tag,-,bad⟩ | held)
    · cases bad
    · exact .inr held
  cases s with
  | mutated some => exact touched some drops
  | mutatedEntity kind id =>
    obtain ⟨some,named,held⟩ := drops
    exact ⟨some,named,touched _ held⟩
  | _ => exact drops

def Lists (c : Coordinator τ) : Step τ → Prop
  | .mutated tags => c.store.Covers tags
  | .mutatedEntity kind id => ∀ tags, Ledger.tagsForEntity kind id = .ok tags → c.store.Covers (tags.map Tag.text)
  | _ => True

omit [Quantity τ] in
theorem indexedLists {c : Coordinator τ} (indexed : c.store.Indexed) (s : Step τ) : c.Lists s := by
  cases s with
  | mutated tags => exact indexed.covers tags
  | mutatedEntity kind id => exact fun tags _ => indexed.covers (tags.map Tag.text)
  | _ => exact trivial

theorem stepDropped {c : Coordinator τ} (orderly : c.Orderly) (now : τ) {s : Step τ} (lists : c.Lists s) :
    Dropped (c.Drops s) c (c.step now s) := by
  cases s with
  | mutated tags => exact mutatedDropped orderly lists now
  | mutatedEntity kind id =>
    cases named : Ledger.tagsForEntity kind id with
    | error why =>
      refine .nothing fun key carried drops => ?_
      obtain ⟨tags,other,-⟩ := drops
      cases named.symm.trans other
    | ok tags =>
      have reached : c.step now (.mutatedEntity kind id) = (mutated now (tags.map Tag.text) c).2 := by
        simp only [step,mutatedEntity,named]
        rfl
      rw [reached]
      refine (mutatedDropped orderly (lists tags named) now).fewer fun key carried drops => ?_
      obtain ⟨others,other,touched⟩ := drops
      cases named.symm.trans other
      exact touched
  | mutatedKeys matching => exact mutatedKeysDropped orderly now matching
  | bust raw =>
    cases admitted : c.store.gate.admitKey raw with
    | error why => exact .nothing fun key _ drops => by cases admitted.symm.trans drops
    | ok key =>
      refine (bustDropped orderly admitted).fewer fun k _ drops => ?_
      cases admitted.symm.trans drops
      rfl
  | fetch caller raw r =>
    by_cases some : ∃ key, c.Drops (.fetch caller raw r) key []
    · obtain ⟨key,busts,admitted,given⟩ := some
      refine (fetchDropped orderly admitted busts given).fewer fun k _ drops => ?_
      cases admitted.symm.trans drops.2.1
      rfl
    · exact .nothing fun key _ drops => some ⟨key,drops⟩
  | clear => exact clearDropped orderly now
  | _ => exact .nothing fun _ _ drops => drops

/-! Afterwards. -/

def Leads (c c' : Coordinator τ) : Prop := ∃ run, (∀ m ∈ run, m.2.Proper) ∧ c' = c.after run

def Continues (c c' : Coordinator τ) : Prop := ∃ run, (∀ m ∈ run, m.2.Keyed) ∧ c' = c.after run

theorem carriedStores {c : Coordinator τ} {now : τ} {s : Step τ} {n : Nat} {t : Task τ} {p : Store.Piece τ}
    (carries : s.carries = some n) (found : c.tasks.get? n = some t) (stores : c.Stores now s p) :
    t.superseded = false ∧ ∀ key e, p = .written key e →
      c.store.gate.admitKey (.str t.key) = .ok key ∧ e.tags = t.tags := by
  cases s with
  | begin m => cases stores
  | advance m a =>
    cases carries
    obtain ⟨t',found',current,data,-,-,writes⟩ := stores
    cases found.symm.trans found'
    refine ⟨current,?_⟩
    rintro key e rfl
    obtain ⟨tags,given,rfl⟩ := writes.entry
    cases given
    exact ⟨writes.admitted,rfl⟩
  | _ => cases carries

/-- After a step that dropped something: it is gone, no task that was under way writes any of it, and
nobody gets to wait for an old fetch of its key, or for one that would have written some of it. -/
structure Purged (c : Coordinator τ) (now : τ) (s : Step τ) : Prop where
  swept : ∀ key e, (c.step now s).store.entries.get? key = some e → ¬ c.Drops s key e.tags
  silent : ∀ before now' s' n t, (c.step now s).Continues before → c.tasks.get? n = some t →
    s'.carries = some n → c.Drops s t.key t.tags →
    (before.step now' s').store.entries = before.store.entries ∧
      (before.step now' s').store.tagged = before.store.tagged
  harmless : ∀ before now' s' n t, (c.step now s).Continues before → c.tasks.get? n = some t →
    s'.carries = some n → ∀ key e, (before.step now' s').store.entries.get? key = some e →
    before.store.entries.get? key = some e ∨ ¬ c.Drops s key e.tags
  unjoined : ∀ before now' caller raw r key n isNew c', (c.step now s).Continues before →
    before.store.gate.admitKey raw = .ok key → c.Drops s key [] →
    fetch now' caller raw r before = (.ok (.waits n isNew),c') → c.nextTask ≤ n
  abandoned : ∀ before now' caller raw r n t isNew c', (c.step now s).Continues before →
    c.tasks.get? n = some t → c.Drops s t.key t.tags →
    fetch now' caller raw r before ≠ (.ok (.waits n isNew),c')
  own : ∀ caller raw r n isNew c', s = .fetch caller raw r → r.bustCache = true →
    fetch now caller raw r c = (.ok (.waits n isNew),c') → c.nextTask ≤ n

theorem stepSuperseded {c before : Coordinator τ} (orderly : c.Orderly) {now : τ} {s : Step τ} (lists : c.Lists s)
    (later : (c.step now s).Onward before) {n : Nat} {t t' : Task τ} (found : c.tasks.get? n = some t)
    (found' : before.tasks.get? n = some t') : t'.Follows t ∧
      (c.Drops s t.key t.tags → t'.superseded = true) := by
  have first := chainOnward (c.stepTurns now s)
  have old := orderly.numbered n t found
  obtain ⟨t₁,found₁,follows'⟩ := later.tasks n t' (Nat.lt_of_lt_of_le old first.next) found'
  obtain ⟨t₀,same,follows⟩ := first.tasks n t₁ old found₁
  cases found.symm.trans same
  refine ⟨follows'.trans follows,fun drops => follows'.2 ?_⟩
  exact (stepDropped orderly now lists).superseded n t t₁ found drops found₁

theorem supersededSilent {c : Coordinator τ} {now : τ} {s : Step τ} {n : Nat} (carries : s.carries = some n)
    (superseded : ∀ t, c.tasks.get? n = some t → t.superseded = true) :
    (c.step now s).store.entries = c.store.entries ∧ (c.step now s).store.tagged = c.store.tagged := by
  cases found : c.tasks.get? n with
  | none =>
    rw [(carriedAbsent carries found).1]
    exact ⟨rfl,rfl⟩
  | some t =>
    have still : ∀ p, (c.permit now s).stores p → Store.Still p := fun p stores => by
      cases (superseded t found).symm.trans (carriedStores carries found stores).1
    obtain ⟨l,m,after⟩ := Store.chainStill (Store.chainMono still (chainStore (c.stepTurns now s)))
    rw [after]
    exact ⟨rfl,rfl⟩

theorem fetchAdmitted {now : τ} {caller : String} {raw : Value} {r : Request τ} {c c' : Coordinator τ}
    {a : Answer} (done : fetch now caller raw r c = (.ok a,c')) :
    ∃ key, c.store.gate.admitKey raw = .ok key ∧ ∀ why, r.tags ≠ some (.error why) := by
  obtain ⟨key,c₁,first,rest⟩ := Op.bindOk done
  obtain ⟨s,read,-⟩ := inStoreOk first
  refine ⟨key,(Store.admitKeyOk read).1,fun why bad => ?_⟩
  obtain ⟨tags,c₂,passed,-⟩ := Op.bindOk rest
  simp only [requestTags,bad] at passed
  cases passed

theorem fetchSlot {now : τ} {caller : String} {raw : Value} {r : Request τ} {c c' : Coordinator τ}
    {n : Nat} {isNew : Bool} (orderly : c.Orderly)
    (waits : fetch now caller raw r c = (.ok (.waits n isNew),c')) :
    ∃ key, c.store.gate.admitKey raw = .ok key ∧ c'.slots.get? key = some n ∧ c'.Orderly ∧ c.Onward c' := by
  obtain ⟨key,admitted,-⟩ := fetchAdmitted waits
  obtain ⟨c₁,given,-,shared⟩ := fetchShares admitted waits
  have chain := c.stepTurns now (.fetch caller raw r)
  rw [step,waits] at chain
  exact ⟨key,admitted,(shareWaits shared).1,chainOrderly chain orderly,chainOnward chain⟩

theorem Purged.nothing {c : Coordinator τ} {now : τ} {s : Step τ} (none : ∀ key tags, ¬ c.Drops s key tags)
    (other : ∀ caller raw r, s ≠ .fetch caller raw r) : c.Purged now s where
  swept _ _ _ := none _ _
  silent _ _ _ _ _ _ _ _ drops := absurd drops (none _ _)
  harmless _ _ _ _ _ _ _ _ _ _ _ := .inr (none _ _)
  unjoined _ _ _ _ _ _ _ _ _ _ _ drops := absurd drops (none _ _)
  abandoned _ _ _ _ _ _ _ _ _ _ _ drops := absurd drops (none _ _)
  own caller raw r _ _ _ fetch := absurd fetch (other caller raw r)

theorem stepPurged {c : Coordinator τ} (orderly : c.Orderly) (keyed : c.Keyed) (now : τ) {s : Step τ}
    (names : s.Keyed) (lists : c.Lists s) : c.Purged now s := by
  have chain := c.stepTurns now s
  have first := chainOnward chain
  have dropped := stepDropped orderly now lists
  have leads : ∀ before, (c.step now s).Continues before →
      (c.step now s).Onward before ∧ before.Orderly ∧ before.Keyed := by
    rintro before ⟨run,fit,rfl⟩
    exact ⟨afterOnward _ run,afterOrderly (chainOrderly chain orderly) run,
      afterKeyed (stepKeyed keyed now names) fit⟩
  refine ⟨dropped.swept,?_,?_,?_,?_,?_⟩
  · intro before now' s' n t led found carries drops
    obtain ⟨later,-⟩ := leads before led
    exact supersededSilent carries fun t' found' => (stepSuperseded orderly lists later found found').2 drops
  · intro before now' s' n t led found carries key e after
    obtain ⟨later,-,safe⟩ := leads before led
    -- what is new was written by the task, which is current and so does not write what was dropped
    cases found' : before.tasks.get? n with
    | none =>
      rw [(carriedAbsent carries found').1] at after
      exact .inl after
    | some t' =>
      obtain ⟨follows,superseded⟩ := stepSuperseded orderly lists later found found'
      rcases Store.chainEntries (chainStore (before.stepTurns now' s')) after with kept | written
      · exact .inl kept
      · refine .inr fun drops => ?_
        obtain ⟨current,names⟩ := carriedStores carries found' written
        obtain ⟨admitted,tags⟩ := names key e rfl
        obtain ⟨text,same,-,clean,-⟩ := Key.sanitizeOk admitted
        cases same
        rw [safe n t' found',follows.key] at clean
        rw [tags,follows.tags,clean] at drops
        cases current.symm.trans (superseded drops)
  · intro before now' caller raw r key n isNew c' led admitted drops waits
    obtain ⟨later,safe,-⟩ := leads before led
    obtain ⟨key',admitted',slot,orderly',onward⟩ := fetchSlot safe waits
    cases admitted.symm.trans admitted'
    exact dropped.joined first (later.trans onward) orderly' slot (dropsAny drops)
  · intro before now' caller raw r n t isNew c' led found drops waits
    obtain ⟨later,safe,-⟩ := leads before led
    obtain ⟨key,-,slot,orderly',onward⟩ := fetchSlot safe waits
    obtain ⟨t',found',-,-,current⟩ := (orderly'.slots key n).mp slot
    have superseded := (stepSuperseded orderly lists (later.trans onward) found found').2 drops
    cases current.symm.trans superseded
  · rintro caller raw r n isNew c' rfl busts waits
    obtain ⟨key,admitted,given⟩ := fetchAdmitted waits
    obtain ⟨key',admitted',slot,orderly',-⟩ := fetchSlot orderly waits
    cases admitted.symm.trans admitted'
    have reached : c.step now (.fetch caller raw r) = c' := congrArg Prod.snd waits
    rw [reached] at first dropped
    exact dropped.joined first (.refl c') orderly' slot fun _ => ⟨busts,admitted,given⟩

theorem mutatedEntry (now : τ) (tags : List Tag) (c : Coordinator τ) (key : String) :
    (mutated now tags c).2.store.entries.get? key =
      if key ∈ c.store.keysForTags tags then none else c.store.entries.get? key := by
  rw [← Store.sweepTagsEntry now]
  have reached : (mutated now tags c).2 = (inStore (Store.sweepTags now tags)
      ((c.detachFetches fun k t => (c.store.keysForTags tags).contains k ||
        t.tags.any tags.contains).supersede (c.store.keysForTags tags) tags).2).2 := rfl
  rw [reached,inStoreAfter,supersede,detachedStore]

theorem sweptCovers {c : Coordinator τ} (now : τ) {tags : List Tag} (swept : ∀ key e,
    (mutated now tags c).2.store.entries.get? key = some e → ¬ c.Touched tags key e.tags) : c.store.Covers tags := by
  intro key e found carried
  by_contra unlisted
  have stays : (mutated now tags c).2.store.entries.get? key = some e := by
    rw [mutatedEntry,if_neg unlisted,found]
  exact swept key e stays (.inl carried)

theorem Purged.lists {c : Coordinator τ} {now : τ} {s : Step τ} (purged : c.Purged now s) : c.Lists s := by
  cases s with
  | mutated tags => exact sweptCovers now purged.swept
  | mutatedEntity kind id =>
    intro tags named
    have reached : c.step now (.mutatedEntity kind id) = (mutated now (tags.map Tag.text) c).2 := by
      simp only [step,mutatedEntity,named]
      rfl
    refine sweptCovers now fun key e found touched => ?_
    exact purged.swept key e (reached ▸ found) ⟨tags,named,touched⟩
  | _ => exact trivial

/-- In every run of a coordinator over a new store, whatever an invalidation by tags, entity or keys, a bust or a
clearing drops stays dropped as far as the tasks under way are concerned, exactly if the index lists every entry
that is dropped by its tags; and it does if all that was written carried tags that are tags. -/
theorem mutationSafe {capacity : Int} {ttlFor : String → τ} {gate : Gate} {limiter : Limiter τ}
    {meter : Meter τ} {store : Store τ} (made : Store.create capacity ttlFor gate limiter meter = .ok store)
    {rule : BreakerRule τ} {service : Service τ} {toleratesStale refusesSensitive : Bool}
    {run : List (τ × Step τ)} (keyed : ∀ m ∈ run, m.2.Keyed) :
    let c := (create store rule service toleratesStale refusesSensitive).after run
    (∀ now s, c.Purged now s ↔ c.Lists s) ∧ ((∀ m ∈ run, m.2.Proper) → ∀ s, c.Lists s) := by
  intro c
  have orderly : c.Orderly := afterOrderly (createOrderly store rule service toleratesStale refusesSensitive) run
  have names : c.Keyed := afterKeyed (fun n t found => by cases found) keyed
  refine ⟨fun now s => ⟨Purged.lists,fun lists => ?_⟩,fun proper s => ?_⟩
  · by_cases stored : s.Keyed
    · exact stepPurged orderly names now stored lists
    · -- a refresh that is scheduled drops nothing, whatever its key
      cases s with
      | schedule key supplier ttl tags version endpoint =>
        exact .nothing (fun _ _ drops => drops) fun _ _ _ bad => by cases bad
      | _ => exact absurd trivial stored
  · exact indexedLists (afterSound (createSound made rule service toleratesStale refusesSensitive) proper).indexed s

def smallStore : Store Number :=
  ⟨10,fun _ => .whole 60,⟨[],256,1000⟩,.create 0 (.whole 60),
    .create 10 (.whole 60) ⟨.whole 0,.whole 1,.whole 100,.whole 100,0⟩ .silent,.empty,.empty⟩

def smallCache : Coordinator Number :=
  create smallStore ⟨1,.whole 60,.whole 10,.whole 40⟩
    ⟨⟨0,.whole 0,.whole 0,.whole 0,none⟩,none,fun low _ => low⟩ true false

def userRequest : Request Number := ⟨"load",none,some (.ok [.text "user"]),none,true,false,"rpc"⟩

def userRun : List (Number × Step Number) := [
  (.whole 1000,.fetch "a" (.str "user:1") userRequest),(.whole 1000,.begin 0)]

theorem userSafe : (∀ m ∈ userRun, m.2.Keyed) ∧ (smallCache.after userRun).tasks.has 0 = true ∧
    (smallCache.after userRun).Drops (.mutated [.text "user"]) "user:1" [.text "user"] ∧
    (smallCache.after userRun).Purged (.whole 1001) (.mutated [.text "user"]) := by
  have keyed : ∀ m ∈ userRun, m.2.Keyed := by simp [userRun,Step.Keyed]
  have proper : ∀ m ∈ userRun, m.2.Proper := by simp [userRun,Step.Proper]
  have safe : (∀ now s, (smallCache.after userRun).Purged now s ↔ _) ∧ _ :=
    mutationSafe (show Store.create 10 _ _ _ _ = .ok smallStore from rfl) keyed
  exact ⟨keyed,by decide,.inl ⟨.text "user",by simp,by simp⟩,(safe.1 _ _).mpr (safe.2 proper _)⟩

def tornRun : List (Number × Step Number) := [
  (.whole 1000,.set (.str "k") (.int 1) ⟨none,Tag.collectGiven (.list [.str "x"]),none,none⟩),
  (.whole 1001,.set (.str "k") (.int 2) ⟨none,Tag.collectGiven (.list [.list [.str "u"]]),none,none⟩)]

/-- The second write fails, and the entry of the first, which carries the tag, outlasts its invalidation. -/
theorem tornSurvives :
    let c := smallCache.after tornRun
    (mutated (.whole 1002) [.text "x"] c).1 = .ok 0 ∧
      (c.step (.whole 1002) (.mutated [.text "x"])).store.entries.get? "k" =
        some ⟨.int 1,.whole 1000,.whole 60,[.text "x"],none,none⟩ := ⟨rfl,rfl⟩

end ReadThrough.Coordinator
