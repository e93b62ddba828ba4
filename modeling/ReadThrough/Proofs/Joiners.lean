import ReadThrough.Proofs.Renewal

/-! Whose tags an invalidation goes by. A fetch carries the tags of the request that opened it; a request
that joins it brings tags of its own, and nothing keeps them. So an invalidation voids the fetch of all who
wait for it where the opener carries one of its tags or an entry under the key does, and no other. -/
namespace ReadThrough
variable {τ : Type} [Quantity τ]

theorem Meter.missTakes (key : String) {m : Meter τ} (willing : m.sink ≠ .refusing) :
    (recordMiss key m).1 = .ok () := by
  have told : recordMiss key m = report (.miss key) { m with misses := m.misses + 1 } := rfl
  rw [told,report]
  cases kind : m.sink with
  | refusing => exact absurd kind willing
  | journal | silent => rfl
  | exposition x =>
    have counted : (x.report (.miss key)).1 = .ok () := rfl
    dsimp only
    cases reported : x.report (.miss key) with
    | mk r x' =>
      rw [reported] at counted
      cases counted
      rfl

namespace Coordinator
variable {c c' : Coordinator τ} {n : Nat} {t : Task τ} {key : String} {tags : List Tag}

structure Voided (c : Coordinator τ) (n : Nat) : Prop where
  silent : ∀ before now s, c.Leads before → s.carries = some n →
    (before.step now s).store.entries = before.store.entries ∧
      (before.step now s).store.tagged = before.store.tagged
  unjoined : ∀ before now caller raw r isNew c', c.Leads before →
    fetch now caller raw r before ≠ (.ok (.waits n isNew),c')

structure Spared (c : Coordinator τ) (n : Nat) (key : String) : Prop where
  slot : c.slots.get? key = some n
  joined : ∀ now caller raw r m isNew c', c.store.gate.admitKey raw = .ok key → r.bustCache = false →
    fetch now caller raw r c = (.ok (.waits m isNew),c') → m = n ∧ isNew = false
  awaited : ∀ now caller raw r, c.store.gate.admitKey raw = .ok key → r.bustCache = false →
    r.useCache = false → (∀ why, r.tags ≠ some (.error why)) →
    ∃ c', fetch now caller raw r c = (.ok (.waits n false),c')
  delivered : ∀ now v t caller, c.tasks.get? n = some t → t.pursuit ≠ none → c.Storable now t v →
    c.waiting.get? caller = some n → (caller,.ok v) ∈ c.told now (.advance n (.returned v)) ∧
      (c.step now (.advance n (.returned v))).store.entries.get? key =
        some ⟨v,now,t.ttl.getD (c.store.ttlFor key),t.tags,t.version,none⟩

/-! A superseded fetch. -/

theorem supersededVoided (sound : c.Sound) (known : n < c.nextTask)
    (old : ∀ t, c.tasks.get? n = some t → t.superseded = true) : c.Voided n := by
  have stays {before : Coordinator τ} (led : c.Leads before) (t' : Task τ)
      (found : before.tasks.get? n = some t') : t'.superseded = true := by
    obtain ⟨run,-,rfl⟩ := led
    obtain ⟨t,first,follows⟩ := (afterOnward c run).tasks n t' known found
    exact follows.2 (old t first)
  refine ⟨fun before now s led carries => supersededSilent carries (stays led),?_⟩
  intro before now caller raw r isNew c' led waits
  obtain ⟨run,fit,rfl⟩ := led
  obtain ⟨k,-,slot,orderly,onward⟩ := fetchSlot (afterOrderly sound.orderly run) waits
  obtain ⟨t',found,-,-,current⟩ := (orderly.slots k n).mp slot
  obtain ⟨t,before,follows⟩ := ((afterOnward c run).trans onward).tasks n t' known found
  cases current.symm.trans (follows.2 (old t before))

/-! A fetch with a slot. -/

theorem missShared (willing : c.store.meter.sink ≠ .refusing) (slot : c.slots.get? key = some n)
    (caller : String) (r : Request τ) (given : List Tag) :
    ∃ c', (metered (Meter.recordMiss key) >>= fun _ => share caller key r given) c =
      (.ok (.waits n false),c') := by
  have counted : metered (Meter.recordMiss key) c =
      ((Meter.recordMiss key c.store.meter).1,
        c.counted c.store.limiter (Meter.recordMiss key c.store.meter).2) := rfl
  rw [Meter.missTakes key willing] at counted
  rw [Op.bind_ok counted]
  generalize (Meter.recordMiss key c.store.meter).2 = m
  rw [share,Op.bind_ok (show Op.read _ = (.ok _,_) from rfl)]
  have same : (c.counted c.store.limiter m).slots.get? key = some n := slot
  simp only [same]
  exact ⟨_,rfl⟩

theorem fetchAwaits (willing : c.store.meter.sink ≠ .refusing) (slot : c.slots.get? key = some n) (now : τ)
    (caller : String) {raw : Value} {r : Request τ} (admitted : c.store.gate.admitKey raw = .ok key)
    (keeps : r.bustCache = false) (skips : r.useCache = false) (given : ∀ why, r.tags ≠ some (.error why)) :
    ∃ c', fetch now caller raw r c = (.ok (.waits n false),c') := by
  rw [fetch,Op.bind_ok (admitKeyPasses admitted)]
  rcases requestTagsCases r c with ⟨why,f,bad,-⟩ | ⟨carried,passed⟩
  · exact absurd bad (given why)
  · rw [Op.bind_ok passed]
    simp only [keeps,skips,Bool.false_eq_true,if_false]
    exact missShared willing slot caller r _

theorem slotSpared (sound : c.Sound) (willing : c.store.meter.sink ≠ .refusing)
    (admitted : c.store.gate.admitKey (.str key) = .ok key) (slot : c.slots.get? key = some n) :
    c.Spared n key := by
  refine ⟨slot,?_,?_,?_⟩
  · intro now caller raw r m isNew c' admitted keeps waits
    obtain ⟨same,joins,-⟩ := sound.orderly.flights.joins now caller raw r key n m isNew c' admitted slot keeps waits
    exact ⟨same,joins⟩
  · intro now caller raw r admitted keeps skips given
    exact fetchAwaits willing slot now caller admitted keeps skips given
  · intro now v t caller found begun storable waits
    obtain ⟨t',found',fetches,own,current⟩ := (sound.orderly.slots key n).mp slot
    cases found.symm.trans found'
    subst own
    obtain ⟨size,weighed⟩ := storable.weighed
    have delivers : c.Delivers now n t v caller := waiterDelivered sound.orderly found fetches begun admitted
      weighed storable.scanned storable.lasting storable.takes waits
    exact ⟨delivers.received (.inr storable.room),delivers.stored current storable.room⟩

theorem Spared.unvoided (spared : c.Spared n key) (admitted : c.store.gate.admitKey (.str key) = .ok key)
    (request : Request τ) : ¬ c.Voided n := fun voided => by
  obtain ⟨c',waits⟩ := spared.awaited (Quantity.zero : τ) "" (.str key)
    { request with tags := none, useCache := false, bustCache := false } admitted rfl rfl nofun
  exact voided.unjoined c (Quantity.zero : τ) "" _ _ _ c' ⟨[],by simp,rfl⟩ waits

/-! Which fetch an invalidation detaches. -/

omit [Quantity τ] in
theorem affectedHit {table : Assoc String Nat} {p : String → Task τ → Bool} (distinct : table.Distinct)
    (listed : table.get? key = some n) (found : c.tasks.get? n = some t)
    (mem : key ∈ c.affected table p) : p key t = true := by
  obtain ⟨⟨k,m⟩,hit,rfl⟩ := List.mem_map.mp mem
  obtain ⟨mem,hit⟩ := List.mem_filter.mp hit
  cases listed.symm.trans (Assoc.memGet distinct mem)
  simpa [found] using hit

omit [Quantity τ] in
theorem detachedSlots (c : Coordinator τ) (p : String → Task τ → Bool) :
    (c.detachRefreshes p).2.slots = c.slots := by
  obtain ⟨ts,q,after⟩ := detachRefreshesLeave c p
  rw [after]

theorem mutatedSpares (sound : c.Sound) (now : τ) (found : c.tasks.get? n = some t)
    (slot : c.slots.get? t.key = some n) (untouched : ¬ c.Touched tags t.key t.tags) :
    (c.step now (.mutated tags)).slots.get? t.key = some n := by
  have reached : (c.step now (.mutated tags)).slots =
      ((c.detachFetches fun k t => (c.store.keysForTags tags).contains k ||
        t.tags.any tags.contains).supersede (c.store.keysForTags tags) tags).2.slots := rfl
  rw [reached,supersede,detachedSlots,detachFetches,detachedFree,if_neg,slot]
  intro mem
  have hit := affectedHit sound.orderly.once.1 slot found mem
  simp only [Bool.or_eq_true,List.contains_iff_mem,List.any_eq_true] at hit
  rcases hit with held | ⟨tag,carried,named⟩
  · exact untouched (.inr ((Store.keysForTagsMem sound.indexed tags t.key).mp held))
  · exact untouched (.inl ⟨tag,named,carried⟩)

/-! Whose tags the fetch carries. -/

def Labels (given : List Tag) (x : Op (Coordinator τ) Answer) : Prop :=
  ∀ c n c', x c = (.ok (.waits n true),c') → c'.tasks.Holds n (·.tags = given)

variable {given : List Tag}

omit [Quantity τ] in
theorem labelsBind {α : Type} {x : Op (Coordinator τ) α} {f : α → Op (Coordinator τ) Answer}
    (rest : ∀ a, Labels given (f a)) : Labels given (x >>= f) := by
  intro c n c' waits
  obtain ⟨a,c₁,-,last⟩ := Op.bindOk waits
  exact rest a c₁ n c' last

omit [Quantity τ] in
theorem labelsServed (v : Value) (refresh : Option Nat) :
    Labels given (pure (.served v refresh) : Op (Coordinator τ) Answer) := fun _ _ _ waits => by cases waits

omit [Quantity τ] in
theorem shareLabels (caller key : String) (r : Request τ) : Labels given (share caller key r given) := by
  refine labelsBind fun c₀ => ?_
  cases c₀.slots.get? key with
  | some m => exact labelsBind fun _ c n c' waits => by cases waits
  | none =>
    intro c n c' waits
    obtain ⟨m,c₁,added,rest⟩ := Op.bindOk waits
    obtain ⟨u,c₂,changed,last⟩ := Op.bindOk rest
    cases added
    cases changed
    cases last
    exact ⟨_,Assoc.putSame _ _ _,rfl⟩

theorem missLabels (caller key : String) (r : Request τ) :
    Labels given (metered (Meter.recordMiss key) >>= fun _ => share caller key r given) :=
  labelsBind fun _ => shareLabels caller key r

theorem lookUpTolerantLabels (now : τ) (caller key : String) (r : Request τ) :
    Labels given (lookUpTolerant now caller key r (some given)) := by
  refine labelsBind fun found => ?_
  cases found with
  | none => exact shareLabels caller key r
  | some l =>
    dsimp only
    split
    · exact labelsBind fun refresh => labelsServed _ refresh
    · exact labelsServed _ none

theorem lookUpFreshLabels (now : τ) (caller key : String) (r : Request τ) :
    Labels given (lookUpFresh now caller key r (some given)) := by
  refine labelsBind fun found => ?_
  cases found with
  | none => exact missLabels caller key r
  | some e =>
    dsimp only
    split
    · exact missLabels caller key r
    · exact labelsBind fun _ => labelsServed _ none

theorem fetchLabels {r : Request τ} (tagged : r.tags = some (.ok given)) (now : τ) (caller : String)
    (raw : Value) : Labels given (fetch now caller raw r) := by
  have carried : requestTags r = (pure (some given) : Op (Coordinator τ) _) := by
    rw [requestTags,tagged]
    rfl
  have looked (key : String) : Labels given (do
      if r.useCache then
        if (← Op.read).toleratesStale then lookUpTolerant now caller key r (some given)
        else lookUpFresh now caller key r (some given)
      else
        metered (Meter.recordMiss key)
        share caller key r given : Op (Coordinator τ) Answer) := by
    split
    · refine labelsBind fun c => ?_
      split
      · exact lookUpTolerantLabels now caller key r
      · exact lookUpFreshLabels now caller key r
    · exact missLabels caller key r
  refine labelsBind fun key => ?_
  rw [carried]
  change Labels given (if r.bustCache then _ else _)
  split
  · exact labelsBind fun _ => looked key
  · exact looked key

/-! Those who wait. -/

structure Judges (c : Coordinator τ) (now : τ) (tags : List Tag) (n : Nat) (t : Task τ) (caller : String)
    (isNew : Bool) : Prop where
  waits : c.waiting.get? caller = some n
  voided : (c.step now (.mutated tags)).Voided n ↔ t.superseded = true ∨ c.Touched tags t.key t.tags
  opener : isNew = true → (c.step now (.mutated tags)).Voided n
  spared : t.superseded = false → ¬ c.Touched tags t.key t.tags → (c.step now (.mutated tags)).Spared n t.key

theorem mutatedVoids (sound : c.Sound) (now : τ) (found : c.tasks.get? n = some t)
    (hit : t.superseded = true ∨ c.Touched tags t.key t.tags) : (c.step now (.mutated tags)).Voided n := by
  have first := chainOnward (c.stepTurns now (.mutated tags))
  have known := sound.orderly.numbered n t found
  refine supersededVoided (stepSound sound now trivial) (Nat.lt_of_lt_of_le known first.next) fun t' found' => ?_
  obtain ⟨t₀,before,follows⟩ := first.tasks n t' known found'
  cases found.symm.trans before
  rcases hit with old | touched
  · exact follows.2 old
  · exact (stepDropped sound.orderly now (indexedLists sound.indexed (.mutated tags))).superseded n t t' found touched found'

/-- In every run, when one of the tags that an invalidation names is one of those a caller brought to the
fetch it waits for. -/
theorem mutationJudges {capacity : Int} {ttlFor : String → τ} {gate : Gate} {limiter : Limiter τ}
    {meter : Meter τ} {store : Store τ} (made : Store.create capacity ttlFor gate limiter meter = .ok store)
    {rule : BreakerRule τ} {service : Service τ} {toleratesStale refusesSensitive : Bool}
    {c₀ c₁ : Coordinator τ} (led : (create store rule service toleratesStale refusesSensitive).Leads c₀)
    {asked : τ} {caller : String} {raw : Value} {r : Request τ} {isNew : Bool}
    (waits : fetch asked caller raw r c₀ = (.ok (.waits n isNew),c₁)) {given : List Tag}
    (tagged : r.tags = some (.ok given)) {between : List (τ × Step τ)} (proper : ∀ m ∈ between, m.2.Proper)
    (others : ∀ m ∈ between, m.2.caller ≠ some caller) (found : (c₁.after between).tasks.get? n = some t)
    (shared : ∃ tag ∈ tags, tag ∈ given) (now : τ)
    (willing : ((c₁.after between).step now (.mutated tags)).store.meter.sink ≠ .refusing) :
    (c₁.after between).Judges now tags n t caller isNew := by
  obtain ⟨run,fit,rfl⟩ := led
  have sound₀ := afterSound (createSound made rule service toleratesStale refusesSensitive) fit
  generalize (create store rule service toleratesStale refusesSensitive).after run = c₀ at waits sound₀
  have sound₁ := stepSound sound₀ asked (s := .fetch caller raw r) trivial
  have gate₁ := chainGate (c₀.stepTurns asked (.fetch caller raw r))
  rw [step,waits] at sound₁ gate₁
  have sound := afterSound sound₁ proper
  obtain ⟨key,admitted,slot₁,-⟩ := fetchSlot sound₀.orderly waits
  obtain ⟨c',carried,-,answered⟩ := fetchShares admitted waits
  have mine := stillWaiting sound₁.orderly (shareWaits answered).2.1 others found
  obtain ⟨t₁,found₁,fetches,own,-⟩ := (sound₁.orderly.slots key n).mp slot₁
  obtain ⟨t₂,same,follows⟩ := (afterOnward c₁ between).tasks n t (sound₁.orderly.numbered n t₁ found₁) found
  cases found₁.symm.trans same
  have gate : ((c₁.after between).step now (.mutated tags)).store.gate = c₀.store.gate :=
    ((chainGate ((c₁.after between).stepTurns now (.mutated tags))).trans (afterGate c₁ between)).trans gate₁
  have named : ((c₁.after between).step now (.mutated tags)).store.gate.admitKey (.str t.key) = .ok t.key := by
    rw [gate,follows.key.trans own]
    exact (Key.sanitizeAgain admitted).2
  have spared (current : t.superseded = false) (untouched : ¬ (c₁.after between).Touched tags t.key t.tags) :
      ((c₁.after between).step now (.mutated tags)).Spared n t.key := by
    have slot := (sound.orderly.slots t.key n).mpr ⟨t,found,follows.purpose.trans fetches,rfl,current⟩
    exact slotSpared (stepSound sound now trivial) willing named (mutatedSpares sound now found slot untouched)
  refine ⟨mine,⟨fun voided => ?_,mutatedVoids sound now found⟩,fun opened => ?_,spared⟩
  · by_contra neither
    obtain ⟨current,untouched⟩ := not_or.mp neither
    exact (spared (Bool.eq_false_iff.mpr current) untouched).unvoided named r voided
  · subst opened
    obtain ⟨t₃,found₃,carries⟩ := fetchLabels tagged asked caller raw c₀ n c₁ waits
    cases found₁.symm.trans found₃
    refine mutatedVoids sound now found (.inr (.inl ?_))
    rw [follows.tags,carries]
    exact shared

def labelled (tag : String) : Request Number := { openRequest with tags := some (.ok [.text tag]) }

def openedOnce : Coordinator Number := (fetch (.whole 1000) "a" (.str "k") (labelled "x") smallCache).2

def joinedOnce : Coordinator Number := (fetch (.whole 1000) "b" (.str "k") (labelled "g") openedOnce).2

theorem joinerSpared : ∃ t, (joinedOnce.after [(.whole 1000,.begin 0)]).tasks.get? 0 = some t ∧
    (joinedOnce.after [(.whole 1000,.begin 0)]).Judges (.whole 1001) [.text "g"] 0 t "b" false := by
  have led : smallCache.Leads openedOnce :=
    ⟨[(.whole 1000,.fetch "a" (.str "k") (labelled "x"))],by simp [Step.Proper],rfl⟩
  have waits : fetch (.whole 1000) "b" (.str "k") (labelled "g") openedOnce =
      (.ok (.waits 0 false),joinedOnce) := rfl
  refine ⟨_,rfl,?_⟩
  exact mutationJudges (show Store.create 10 _ _ _ _ = .ok smallStore from rfl) led waits rfl
    (by simp [Step.Proper]) (by simp [Step.caller]) rfl ⟨.text "g",by simp,by simp⟩ (.whole 1001)
    (fun refuses => by cases refuses)

/-- The tag of a caller who joined the fetch is invalidated before the fetch ends; the next caller gets to
wait for it all the same, is handed what it brings, and this is stored. -/
theorem joinerUnheard :
    let c := (joinedOnce.after [(.whole 1000,.begin 0)]).step (.whole 1001) (.mutated [.text "g"])
    let next := fetch (.whole 1002) "c" (.str "k") openRequest c
    c.waiting.get? "b" = some 0 ∧ next.1 = .ok (.waits 0 false) ∧
      next.2.told (.whole 1003) (.advance 0 (.returned (.int 7))) =
        [("a",.ok (.int 7)),("b",.ok (.int 7)),("c",.ok (.int 7))] ∧
      (next.2.step (.whole 1003) (.advance 0 (.returned (.int 7)))).store.entries.has "k" = true :=
  ⟨rfl,rfl,rfl,rfl⟩

end Coordinator
end ReadThrough
