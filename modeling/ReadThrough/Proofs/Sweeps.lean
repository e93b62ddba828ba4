import ReadThrough.Proofs.Mislaid

/-! Sweeps. Whatever a sweep goes by, what it leaves is the entries filtered: those that are hit are gone from
entries and index and counted once, and nothing else is touched. Sweeps by tags hit what the index lists, which
is what carries the tags as long as the index has lost none of that. -/
namespace ReadThrough
open Relation
variable {τ : Type}

def Meter.invalidated (m : Meter τ) (now : τ) (n : Nat) : Meter τ :=
  if n = 0 then m else { m with invalidations := m.invalidations + n, removed := m.removed ++ [(now,(n : Int))] }

namespace Store
variable {s s' : Store τ}

/-! Listed keys. -/

def Sound (s : Store τ) : Prop :=
  ∀ tag key, key ∈ s.keysForTag tag → ∃ e, s.entries.get? key = some e ∧ tag ∈ e.tags

theorem Change.sound {may : Piece τ → Prop} (changed : s.Change may s') (sound : s.Sound) : s'.Sound := by
  intro tag k listed
  cases changed with
  | counted l m => exact sound tag k listed
  | @removed key allowed =>
    have forgotten : k ∈ (s.forgotten key).keysForTag tag := by rwa [keysForTag,← removeKeys]
    obtain ⟨before,other⟩ := (forgottenKeys s key tag k).mp forgotten
    obtain ⟨e,found,carried⟩ := sound tag k before
    refine ⟨e,?_,carried⟩
    rw [removeGet,if_neg]
    · exact found
    · rintro rfl
      exact other ⟨rfl,e,found,carried⟩
  | emptied allowed => cases listed
  | @unlabelled key allowed =>
    obtain ⟨e,found,carried⟩ := sound tag k ((forgottenKeys s key tag k).mp listed).1
    exact ⟨e,by rwa [forgottenEntries],carried⟩
  | @written key e allowed =>
    simp only [insert,forgottenEntries,Assoc.get?_put]
    rcases (addTagsKeys key (s.forgotten key).tagged e.tags tag k).mp listed with before | ⟨rfl,carried⟩
    · obtain ⟨before,other⟩ := (forgottenKeys s key tag k).mp before
      obtain ⟨e',found,carried⟩ := sound tag k before
      refine ⟨e',?_,carried⟩
      rw [if_neg]
      · exact found
      · rintro rfl
        exact other ⟨rfl,e',found,carried⟩
    · exact ⟨e,if_pos rfl,carried⟩

theorem chainSound {may : Piece τ → Prop} (chain : ReflTransGen (Change may) s s') (sound : s.Sound) : s'.Sound := by
  induction chain with
  | refl => exact sound
  | tail _ changed ih => exact changed.sound ih

theorem removeIndex (sound : s.Sound) (key : String) (tag : Tag) :
    (s.remove key).2.keysForTag tag = (s.keysForTag tag).filter (· ≠ key) := by
  have unlisted (absent : key ∉ s.keysForTag tag) : (s.keysForTag tag).filter (· ≠ key) = s.keysForTag tag :=
    List.filter_eq_self.mpr fun k mem => decide_eq_true fun same => absent (same ▸ mem)
  have dropped (tags : List Tag) (tagged : Assoc Tag (List String)) :
      ((tags.foldl (dropTag key) tagged).get? tag).getD [] =
        if tag ∈ tags then ((tagged.get? tag).getD []).filter (· ≠ key) else (tagged.get? tag).getD [] := by
    induction tags generalizing tagged with
    | nil => rfl
    | cons t rest ih =>
      rw [List.foldl_cons,ih,dropTagKeys]
      by_cases same : t = tag
      · simp [same]
      · simp [same,Ne.symm same]
  unfold remove
  cases found : s.entries.get? key with
  | none =>
    refine (unlisted fun listed => ?_).symm
    obtain ⟨e,held,-⟩ := sound tag key listed
    cases found.symm.trans held
  | some e =>
    refine (dropped e.tags s.tagged).trans ?_
    split
    · rfl
    · rename_i uncarried
      refine (unlisted fun listed => ?_).symm
      obtain ⟨e',held,carried⟩ := sound tag key listed
      cases found.symm.trans held
      exact uncarried carried

theorem removeAllIndex (sound : s.Sound) (keys : List String) (tag : Tag) :
    (s.removeAll keys).2.keysForTag tag = (s.keysForTag tag).filter (· ∉ keys) := by
  induction keys generalizing s with
  | nil => exact (List.filter_eq_self.mpr fun _ _ => by simp).symm
  | cons key rest ih =>
    have changed : s.Change (fun _ => True) (s.remove key).2 := .removed trivial
    rw [removeAllCons,ih (changed.sound sound),removeIndex sound,List.filter_filter]
    exact List.filter_congr fun k _ => by simp [Bool.and_comm]

theorem removeAllEntries (s : Store τ) (keys : List String) :
    (s.removeAll keys).2.entries.entries = s.entries.entries.filter (·.1 ∉ keys) := by
  induction keys generalizing s with
  | nil => exact (List.filter_eq_self.mpr fun _ _ => by simp).symm
  | cons key rest ih =>
    rw [removeAllCons,ih,removeEntries,Assoc.erase,List.filter_filter]
    exact List.filter_congr fun e _ => by simp [Bool.and_comm]

theorem removeAllAbsent {keys : List String} (absent : ∀ key ∈ keys, s.entries.get? key = none) :
    s.removeAll keys = (0,s) := by
  induction keys with
  | nil => rfl
  | cons key rest ih =>
    have kept : s.remove key = (false,s) := by rw [remove,absent key List.mem_cons_self]
    rw [removeAll,kept]
    exact ih fun k later => absent k (List.mem_cons_of_mem _ later)

/-! What a sweep comes to. -/

section
variable [Quantity τ]

/-- The entries that are hit are gone, and counted once; nothing else is touched. -/
structure Swept (now : τ) (reason : String) (hit : String × Entry τ → Bool) (s : Store τ)
    (x : Except Fault Nat × Store τ) : Prop where
  entries : x.2.entries.entries = s.entries.entries.filter fun e => !hit e
  index : ∀ tag, x.2.keysForTag tag = (s.keysForTag tag).filter x.2.entries.has
  terms : x.2.terms = s.terms
  limiter : x.2.limiter = s.limiter
  counted : ∃ size, x.2.meter.bare = { s.meter.invalidated now (s.entries.entries.countP hit) with size }.bare
  idle : s.entries.entries.countP hit = 0 → x = (.ok 0,s)
  answer : s.meter.sink.Takes s.entries.size → x.1 = .ok (s.entries.entries.countP hit)
  heard : s.meter.sink = .journal → s.entries.entries.countP hit ≠ 0 → x.2.meter.size = x.2.entries.size ∧
    x.2.meter.journal = s.meter.journal ++
      [.invalidation (s.entries.entries.countP hit) reason,.size x.2.entries.size]

variable {now : τ} {reason : String} {keys : List String} {hit : String × Entry τ → Bool}

omit [Quantity τ] in
theorem sweptEntries (hits : ∀ e ∈ s.entries.entries, e.1 ∈ keys ↔ hit e = true) :
    (s.removeAll keys).2.entries.entries = s.entries.entries.filter fun e => !hit e := by
  rw [removeAllEntries]
  refine List.filter_congr fun e mem => ?_
  by_cases named : e.1 ∈ keys
  · simp [named,(hits e mem).mp named]
  · have missed : hit e = false := by simpa using mt (hits e mem).mpr named
    simp [named,missed]

omit [Quantity τ] in
theorem sweptCount (distinct : s.entries.Distinct) (hits : ∀ e ∈ s.entries.entries, e.1 ∈ keys ↔ hit e = true) :
    (s.removeAll keys).1 = s.entries.entries.countP hit := by
  have size := removeAllSize distinct keys
  have split := s.entries.entries.length_eq_countP_add_countP hit
  have left : (s.removeAll keys).2.entries.size = s.entries.entries.countP fun e => !hit e := by
    rw [Assoc.size,sweptEntries hits,List.countP_eq_length_filter]
  simp only [Bool.not_eq_true,Bool.decide_eq_false] at split
  rw [left] at size
  unfold Assoc.size at size
  omega

omit [Quantity τ] in
theorem sweptIndex (sound : s.Sound) (tag : Tag) :
    (s.removeAll keys).2.keysForTag tag = (s.keysForTag tag).filter (s.removeAll keys).2.entries.has := by
  rw [removeAllIndex sound]
  refine List.filter_congr fun k listed => ?_
  obtain ⟨e,found,-⟩ := sound tag k listed
  rw [Assoc.has,removeAllGet,found]
  by_cases named : k ∈ keys <;> simp [named]

theorem sweptRuns (now : τ) (reason : String) {n : Nat} {s₁ : Store τ} (gone : s.removeAll keys = (n,s₁))
    (found : n ≠ 0) : ∃ r m size, removeMany now keys reason s = (r,{ s₁ with meter := m }) ∧
      m.bare = { s₁.meter.invalidated now n with size }.bare ∧
      (s₁.meter.sink = .journal → m.size = s₁.entries.size ∧
        m.journal = s₁.meter.journal ++ [.invalidation n reason,.size s₁.entries.size]) := by
  let counted : Meter τ := s₁.meter.invalidated now n
  let told : Except Fault Unit × Meter τ := Meter.report (.invalidation n reason) counted
  let sized (m : Meter τ) : Except Fault Unit × Meter τ :=
    Meter.report (.size s₁.entries.size) { m with size := s₁.entries.size }
  have swept : Op.step (·.removeAll keys) s = (.ok n,s₁) := by rw [Op.step,gone]
  have noted : metered (Meter.recordInvalidation now n reason) s₁ = (told.1,{ s₁ with meter := told.2 }) := by
    rw [metered,Op.within,Meter.recordInvalidation,if_neg (by omega)]
    change ((Meter.report _ _).1,_) = _
    simp only [told,counted,Meter.invalidated,if_neg found]
    rfl
  have bare : told.2.bare = counted.bare := Meter.reportBare _ counted
  have kept : counted.sink = s₁.meter.sink ∧ counted.journal = s₁.meter.journal := by
    simp only [counted,Meter.invalidated,if_neg found,and_self]
  rw [removeMany,Op.bind_ok swept,if_pos (Nat.pos_of_ne_zero found)]
  cases heard : told.1 with
  | error f =>
    rw [heard] at noted
    refine ⟨.error f,told.2,counted.size,Op.bind_error noted,bare,fun journal => ?_⟩
    simp only [told,Meter.report,kept.1,journal] at heard
    cases heard
  | ok u =>
    rw [heard] at noted
    have reported : reportSize { s₁ with meter := told.2 } =
        ((sized told.2).1,{ s₁ with meter := (sized told.2).2 }) := rfl
    have bare' : (sized told.2).2.bare = { counted with size := s₁.entries.size }.bare :=
      (Meter.reportBare _ _).trans (congrArg (fun m : Meter τ => { m with size := (s₁.entries.size : Int) }) bare)
    refine ⟨(sized told.2).1.map fun _ => n,(sized told.2).2,s₁.entries.size,?_,bare',fun journal => ?_⟩
    · rw [Op.bind_ok noted,Op.bind_apply,reported]
      cases (sized told.2).1 <;> rfl
    · have sink : { told.2 with size := (s₁.entries.size : Int) }.sink = .journal := by
        simp only [told,Meter.report,kept.1,journal,Meter.note]
      refine ⟨congrArg (fun m : Meter τ => m.size) bare',?_⟩
      simp only [sized,told,Meter.report,kept,journal,Meter.note,List.append_assoc,List.cons_append,List.nil_append]

theorem removeManySwept (sound : s.Sound) (distinct : s.entries.Distinct) (now : τ) (reason : String)
    (hits : ∀ e ∈ s.entries.entries, e.1 ∈ keys ↔ hit e = true) :
    Swept now reason hit s (removeMany now keys reason s) := by
  have entries := sweptEntries hits
  have count := sweptCount distinct hits
  have index : ∀ tag, (s.removeAll keys).2.keysForTag tag = _ := sweptIndex sound
  obtain ⟨terms,limiter,meter⟩ := removeAllLeft s keys
  by_cases none : s.entries.entries.countP hit = 0
  · have absent : ∀ key ∈ keys, s.entries.get? key = Option.none := by
      intro key named
      refine Option.eq_none_iff_forall_ne_some.mpr fun e found => ?_
      have mem := Assoc.getMem found
      exact List.countP_eq_zero.mp none _ mem ((hits _ mem).mp named)
    have still : removeMany now keys reason s = (.ok 0,s) := by
      rw [removeMany,Op.bind_ok (show Op.step (·.removeAll keys) s = (.ok 0,s) by
        rw [Op.step,removeAllAbsent absent])]
      rfl
    rw [removeAllAbsent absent] at entries index
    rw [still]
    refine ⟨entries,index,rfl,rfl,⟨s.meter.size,?_⟩,fun _ => rfl,fun _ => by rw [none],fun _ some => absurd none some⟩
    rw [Meter.invalidated,if_pos none]
  · rcases gone : s.removeAll keys with ⟨n,s₁⟩
    rw [gone] at entries count index terms limiter meter
    dsimp only at entries count index terms limiter meter
    subst count
    obtain ⟨r,m,size,ran,bare,heard⟩ := sweptRuns now reason gone none
    rw [meter] at bare heard
    rw [ran]
    refine ⟨entries,index,terms,limiter,⟨size,bare⟩,fun zero => absurd zero none,fun takes => ?_,
      fun journal _ => heard journal⟩
    have fewer : s₁.entries.size ≤ s.entries.size := by
      rw [Assoc.size,entries]
      exact List.length_filter_le _ _
    obtain ⟨m',taken,-⟩ := @accountTaken τ _ s.entries.size s₁ Nat (0 < s.entries.entries.countP hit) _ _
      (Meter.invalidationTaken now (s.entries.entries.countP hit) reason) (meter ▸ takes) fewer
      (s.entries.entries.countP hit)
    have swept : Op.step (·.removeAll keys) s = (.ok (s.entries.entries.countP hit),s₁) := by rw [Op.step,gone]
    rw [removeMany,Op.bind_ok swept,taken] at ran
    exact (congrArg Prod.fst ran).symm

theorem Swept.hits {hit' : String × Entry τ → Bool} {x : Except Fault Nat × Store τ}
    (swept : Swept now reason hit s x) (other : Swept now reason hit' s x) :
    ∀ e ∈ s.entries.entries, hit e = hit' e := by
  intro e mem
  have kept : e ∈ s.entries.entries.filter (fun e => !hit e) ↔ e ∈ s.entries.entries.filter fun e => !hit' e := by
    rw [← swept.entries,← other.entries]
  simp only [List.mem_filter,mem,true_and] at kept
  revert kept
  cases hit e <;> cases hit' e <;> simp

theorem Swept.same {hit' : String × Entry τ → Bool} {x : Except Fault Nat × Store τ}
    (swept : Swept now reason hit s x) (hits : ∀ e ∈ s.entries.entries, hit e = hit' e) :
    Swept now reason hit' s x := by
  have left : s.entries.entries.filter (fun e => !hit e) = s.entries.entries.filter fun e => !hit' e :=
    List.filter_congr fun e mem => by rw [hits e mem]
  have count : s.entries.entries.countP hit = s.entries.entries.countP hit' :=
    List.countP_congr fun e mem => by rw [hits e mem]
  obtain ⟨entries,index,terms,limiter,counted,idle,answer,heard⟩ := swept
  rw [left] at entries
  rw [count] at counted idle answer heard
  exact ⟨entries,index,terms,limiter,counted,idle,answer,heard⟩

theorem Swept.iff {hit' : String × Entry τ → Bool} {x : Except Fault Nat × Store τ}
    (swept : Swept now reason hit s x) :
    Swept now reason hit' s x ↔ ∀ e ∈ s.entries.entries, hit e = hit' e := ⟨swept.hits,swept.same⟩

/-! The four sweeps. -/

section

variable (distinct : s.entries.Distinct)
include distinct

theorem tagSwept (sound : s.Sound) (now : τ) (tag : Tag) :
    Swept now "tag" (fun e => decide (e.1 ∈ s.keysForTag tag)) s (sweepTag now tag s) :=
  removeManySwept sound distinct now "tag" fun _ _ => decide_eq_true_iff.symm

theorem tagsSwept (sound : s.Sound) (now : τ) (tags : List Tag) :
    Swept now "tag" (fun e => decide (e.1 ∈ s.keysForTags tags)) s (sweepTags now tags s) :=
  removeManySwept sound distinct now "tag" fun _ _ => decide_eq_true_iff.symm

theorem keysSwept (sound : s.Sound) (now : τ) (matching : String → Bool) :
    Swept now "pattern" (fun e => matching e.1) s (sweepKeys now matching s) := by
  refine removeManySwept sound distinct now "pattern" fun e mem => ?_
  rw [List.mem_filter]
  exact ⟨fun named => named.2,fun hit => ⟨List.mem_map_of_mem mem,hit⟩⟩

theorem versionSwept (sound : s.Sound) (now : τ) (current : Option String) :
    Swept now "version" (fun e => decide (e.2.version ≠ none ∧ e.2.version ≠ current)) s
      (sweepVersion now current s) := by
  have outdated (e : Entry τ) : isOutdated current e = decide (e.version ≠ none ∧ e.version ≠ current) := by
    cases version : e.version <;> simp [isOutdated,version,bne,beq_eq_decide]
  refine removeManySwept sound distinct now "version" fun e mem => ?_
  rw [← outdated,List.mem_map]
  constructor
  · rintro ⟨e',old,same⟩
    obtain ⟨mem',old⟩ := List.mem_filter.mp old
    have found := Assoc.memGet distinct mem'
    rw [same,Assoc.memGet distinct mem,Option.some.injEq] at found
    rwa [found]
  · exact fun old => ⟨e,List.mem_filter.mpr ⟨mem,old⟩,rfl⟩

omit [Quantity τ] in
theorem coversIff (sound : s.Sound) (tags : List Tag) : s.Covers tags ↔ ∀ e ∈ s.entries.entries,
    decide (e.1 ∈ s.keysForTags tags) = tags.any fun tag => decide (tag ∈ e.2.tags) := by
  have carried (e : String × Entry τ) (mem : e ∈ s.entries.entries) (listed : e.1 ∈ s.keysForTags tags) :
      ∃ tag ∈ tags, tag ∈ e.2.tags := by
    obtain ⟨tag,named,listed⟩ := List.mem_flatMap.mp (List.mem_eraseDups.mp listed)
    obtain ⟨e',found,carries⟩ := sound tag e.1 listed
    cases found.symm.trans (Assoc.memGet distinct mem)
    exact ⟨tag,named,carries⟩
  constructor
  · intro covers e mem
    have listed := covers e.1 e.2 (Assoc.memGet distinct mem)
    rw [Bool.eq_iff_iff,decide_eq_true_iff,List.any_eq_true]
    simp only [decide_eq_true_iff]
    exact ⟨carried e mem,listed⟩
  · intro same key e found carries
    have hit := same (key,e) (Assoc.getMem found)
    simpa using hit.trans (List.any_eq_true.mpr (by simpa using carries))

end

/-- What the sweeps of a store come to. Those by tags go by the index, and are exact for some tags exactly if the
index covers them. -/
structure Sweeping (s : Store τ) : Prop where
  keys : ∀ now matching, s.Swept now "pattern" (fun e => matching e.1) (sweepKeys now matching s)
  version : ∀ now current, s.Swept now "version"
    (fun e => decide (e.2.version ≠ none ∧ e.2.version ≠ current)) (sweepVersion now current s)
  tag : ∀ now tag, s.Swept now "tag" (fun e => decide (e.1 ∈ s.keysForTag tag)) (sweepTag now tag s)
  tags : ∀ now tags, s.Swept now "tag" (fun e => decide (e.1 ∈ s.keysForTags tags)) (sweepTags now tags s)
  listed : s.Sound
  tagExact : ∀ now tag,
    s.Swept now "tag" (fun e => decide (tag ∈ e.2.tags)) (sweepTag now tag s) ↔ s.Covers [tag]
  tagsExact : ∀ now tags,
    s.Swept now "tag" (fun e => tags.any fun tag => decide (tag ∈ e.2.tags)) (sweepTags now tags s) ↔ s.Covers tags

theorem sweeping (distinct : s.entries.Distinct) (sound : s.Sound) : s.Sweeping where
  keys := keysSwept distinct sound
  version := versionSwept distinct sound
  tag := tagSwept distinct sound
  tags := tagsSwept distinct sound
  listed := sound
  tagExact now tag := by
    rw [(tagSwept distinct sound now tag).iff,coversIff distinct sound]
    simp [keysForTags]
  tagsExact now tags := by rw [(tagsSwept distinct sound now tags).iff,coversIff distinct sound]

end

end Store

namespace Coordinator
variable [Quantity τ] {c : Coordinator τ} {run : List (τ × Use τ)} {capacity : Int} {ttlFor : String → τ}
  {gate : Gate} {limiter : Limiter τ} {meter : Meter τ} {store : Store τ}

theorem usedSound (made : Store.create capacity ttlFor gate limiter meter = .ok store) (holds : c.store = store)
    (within : ∀ m ∈ run, m.2.Within fun _ _ => True) : (c.used run).store.Sound := by
  have trail := usedTrail Meter.workingAny Meter.lookingAny c within
  obtain rfl := Store.createOk made
  rw [holds] at trail
  have any : ReflTransGen (Store.Change fun _ => True) _ (c.used run).store :=
    Store.trailMoves (fun _ _ => trivial) trivial trail fun k _ s =>
      Store.chainMono (fun _ _ => trivial) (Store.setChain k.now k.raw k.data k.options s)
  exact Store.chainSound any nofun

/-- In every run of a store that was new, by itself or under a coordinator, sweeps by keys and by version leave the
entries filtered, and sweeps by tags filter out what the index lists. The index lists all entries after each write
exactly if none fails on its tags over an entry that is listed. -/
theorem sweepsExact (made : Store.create capacity ttlFor gate limiter meter = .ok store) (holds : c.store = store)
    (within : ∀ m ∈ run, m.2.Within fun _ _ => True) :
    (c.used run).store.Sweeping ∧
      ((∀ k ∈ c.runCalls run, k.after.Indexed) ↔ ∀ k ∈ c.runCalls run, ¬ k.Mislays) ∧
      ((∀ k ∈ c.runCalls run, ¬ k.Mislays) → ∀ tags, (c.used run).store.Covers tags) := by
  have distinct := (usedStanding Meter.workingAny Meter.lookingAny made holds within).distinct
  obtain ⟨exact,whole⟩ := usedWhole made holds within
  exact ⟨Store.sweeping distinct (usedSound made holds within),exact,fun none => (whole none).covers⟩

def wideStore : Store Number := { Store.narrowStore with capacity := 3 }

def wideCache : Coordinator Number := { narrowCache with store := wideStore }

def taggedAs (version : String) (tags : List String) : Options Number :=
  { Store.tagging tags with version := some version }

def taggedDay : List (Number × Use Number) := [
  (.whole 1000,.errand (.set (.str "a") (.int 1) (taggedAs "v1" ["x","y"]))),
  (.whole 1001,.errand (.set (.str "b") (.int 2) (taggedAs "v2" ["y"]))),
  (.whole 1002,.step (.set (.str "c") (.int 3) (Store.tagging [])))]

theorem taggedSweeps :
    let s := (wideCache.used taggedDay).store
    let both := Store.sweepTags (.whole 1003) [.text "x",.text "y"] s
    let outdated := Store.sweepVersion (.whole 1003) (some "v2") s
    Store.create 3 (fun _ => .whole 60) ⟨[],8,100⟩ (.create 0 (.whole 60)) Store.narrowStore.meter = .ok wideStore ∧
      (∀ m ∈ taggedDay, m.2.Within fun _ _ => True) ∧ (∀ m ∈ taggedDay, m.2.Labelled) ∧
      s.Swept (.whole 1003) "tag" (fun e => [.text "x",.text "y"].any fun tag => decide (tag ∈ e.2.tags)) both ∧
      s.Swept (.whole 1003) "version" (fun e => decide (e.2.version ≠ none ∧ e.2.version ≠ some "v2")) outdated ∧
      both.1 = .ok 2 ∧ both.2.entries.keys = ["c"] ∧ both.2.meter.invalidations = 2 ∧
      outdated.1 = .ok 1 ∧ outdated.2.entries.keys = ["b","c"] ∧ outdated.2.keysForTag (.text "y") = ["b"] := by
  have made : Store.create 3 (fun _ => .whole 60) ⟨[],8,100⟩ (.create 0 (.whole 60)) Store.narrowStore.meter =
      .ok wideStore := rfl
  have holds : wideCache.store = wideStore := rfl
  have within : ∀ m ∈ taggedDay, m.2.Within fun _ _ => True := by simp [taggedDay,Use.Within]
  have labelled : ∀ m ∈ taggedDay, m.2.Labelled := by
    simp [taggedDay,Use.Labelled,Store.Errand.Labelled,Options.Labelled,taggedAs,Store.tagging]
  obtain ⟨sweeps,-,covers⟩ := sweepsExact made holds within
  have covered := covers (labelledWhole wideCache labelled)
  exact ⟨made,within,labelled,(sweeps.tagsExact _ _).mpr (covered _),sweeps.version _ _,rfl,rfl,rfl,rfl,rfl,rfl⟩

def mislaidDay : List (Number × Use Number) := [
  (.whole 1000,.errand (.set (.str "a") (.int 1) (Store.tagging ["x"]))),
  (.whole 1001,.errand (.set (.str "a") (.int 2) nested))]

/-- The entry carries its tag still, and a sweep by the tag leaves it. -/
theorem mislaidUnswept :
    let s := (wideCache.used mislaidDay).store
    let x := Store.sweepTag (.whole 1002) (.text "x") s
    (s.entries.get? "a").map (·.tags) = some [.text "x"] ∧ x.1 = .ok 0 ∧
      (x.2.entries.get? "a").map (·.tags) = some [.text "x"] := ⟨rfl,rfl,rfl⟩

end Coordinator
end ReadThrough
