import ReadThrough.Proofs.Standing
import ReadThrough.Proofs.Writing

/-! Writes that fail half-way. A write that fails leaves the store as it was, but for the limiter, unless its tags
are no tags and it has come far enough to make room or to take its key out of the index. -/
namespace ReadThrough

theorem Assoc.putHeld {κ α : Type} [DecidableEq κ] {m : Assoc κ α} {key : κ} {value : α}
    (held : m.get? key = some value) : m.put key value = m := by
  obtain ⟨entries⟩ := m
  simp only [get?] at held
  simp only [put,mk.injEq]
  induction entries with
  | nil => cases held
  | cons e rest ih =>
    obtain ⟨k,v⟩ := e
    rw [find] at held
    rw [place]
    split at held
    · rename_i same
      cases held
      rw [if_pos same]
    · rename_i other
      rw [if_neg other,ih held]

namespace Store
variable {τ : Type} {s s' : Store τ} {key : String}

/-! Keys that the index does not list. -/

theorem dropTagUnlisted {tagged : Assoc Tag (List String)} (tidy : Tidy tagged) {tag : Tag}
    (unlisted : key ∉ (tagged.get? tag).getD []) : dropTag key tagged tag = tagged := by
  unfold dropTag
  cases listed : tagged.get? tag with
  | none => rfl
  | some keys =>
    rw [listed,Option.getD_some] at unlisted
    have all : keys.filter (· ≠ key) = keys := List.filter_eq_self.mpr fun k mem =>
      decide_eq_true fun same => unlisted (same ▸ mem)
    dsimp only
    rw [all,if_neg (by simpa using (tidy.used tag keys listed).1),Assoc.putHeld listed]

def Listed (s : Store τ) (key : String) : Prop :=
  ∃ e tag, s.entries.get? key = some e ∧ tag ∈ e.tags ∧ key ∈ s.keysForTag tag

theorem forgottenUnlisted (tidy : Tidy s.tagged) (unlisted : ¬ s.Listed key) : s.forgotten key = s := by
  unfold forgotten
  cases held : s.entries.get? key with
  | none => rfl
  | some e =>
    have kept (tags : List Tag) (own : ∀ tag ∈ tags, tag ∈ e.tags) : tags.foldl (dropTag key) s.tagged = s.tagged := by
      induction tags with
      | nil => rfl
      | cons tag rest ih =>
        have absent : key ∉ s.keysForTag tag := fun listed =>
          unlisted ⟨e,tag,held,own tag List.mem_cons_self,listed⟩
        rw [List.foldl_cons,dropTagUnlisted tidy absent]
        exact ih fun tag later => own tag (List.mem_cons_of_mem _ later)
    dsimp only
    rw [untag,kept e.tags fun _ => id]

theorem forgottenListed (listed : s.Listed key) : (s.forgotten key).tagged ≠ s.tagged := by
  obtain ⟨e,tag,held,own,listed⟩ := listed
  intro same
  have still : key ∈ (s.forgotten key).keysForTag tag := by rwa [keysForTag,same]
  exact ((forgottenKeys s key tag key).mp still).2 ⟨rfl,e,held,own⟩

structure Untouched (s s' : Store τ) : Prop where
  entries : s'.entries = s.entries
  tagged : s'.tagged = s.tagged
  evictions : s'.meter.evictions = s.meter.evictions
  size : s'.meter.size = s.meter.size

variable [Quantity τ] {now ttl : τ} {raw data : Value} {o : Options τ}

/-- The call passes all checks, but its tags are no tags, and it was to push out an entry or to write over one that
the index lists. -/
structure Tears (s : Store τ) (now : τ) (raw data : Value) (o : Options τ) (key : String) (why : Failure) :
    Prop where
  lands : s.Lands now raw data o key
  untagged : o.tags = .error why
  late : s.entries.has key = false ∧ s.capacity ≤ s.entries.size ∨ s.Listed key

theorem landTagged (houses : s.Houses) {tags : List Tag} (tagged : o.tags = .ok tags) :
    ∃ s', land now key ttl data o s = (.ok key,s') := by
  obtain ⟨s₁,room,adds,has,free⟩ := makeRoomAdds houses now key
  obtain ⟨m,sized,-⟩ := insertAdds adds.houses key (has ▸ free) ⟨data,now,ttl,tags,o.version,o.etag⟩
  have freed : forgetTags key s₁ = (.ok (),s₁.forgotten key) := rfl
  rw [land,Op.bind_ok room,Op.bind_ok freed,tagged,
    Op.bind_ok (show Op.liftFailure (.ok tags) (s₁.forgotten key) = (.ok tags,s₁.forgotten key) from rfl),
    Op.bind_ok (show Op.change _ (s₁.forgotten key) = (.ok (),_) from rfl),Op.bind_ok sized]
  exact ⟨_,rfl⟩

theorem landUntagged (houses : s.Houses) {why : Failure} (untagged : o.tags = .error why) :
    ∃ s₁, makeRoom now key s = (.ok (),s₁) ∧ land now key ttl data o s = (.error (.of why),s₁.forgotten key) := by
  obtain ⟨s₁,room,-⟩ := makeRoomAdds houses now key
  have freed : forgetTags key s₁ = (.ok (),s₁.forgotten key) := rfl
  refine ⟨s₁,room,?_⟩
  rw [land,Op.bind_ok room,Op.bind_ok freed,untagged]
  rfl

theorem landTorn (houses : s.Houses) {why : Failure} (untagged : o.tags = .error why)
    (late : s.entries.has key = false ∧ s.capacity ≤ s.entries.size ∨ s.Listed key) :
    ∃ s', land now key ttl data o s = (.error (.of why),s') ∧ ¬ s.Untouched s' := by
  obtain ⟨s₁,room,landed⟩ := @landUntagged τ s key _ now ttl data o houses why untagged
  refine ⟨_,landed,fun untouched => ?_⟩
  have entries := untouched.entries
  have tagged := untouched.tagged
  rw [forgottenEntries] at entries
  rcases makeRoomOk room with ⟨free,rfl⟩ | ⟨absent,full,evicts⟩
  · rcases late with ⟨absent,full⟩ | listed
    · rw [absent] at free
      exact absurd (free.resolve_left Bool.false_ne_true) (Nat.not_lt.mpr full)
    · exact forgottenListed listed tagged
  · cases evicts with
    | nobody empty =>
      have none : s.entries.size = 0 := congrArg List.length empty
      have := houses.roomy
      omega
    | oldest first left =>
      have fewer := evictedSize first
      rw [← left,entries] at fewer
      exact Nat.lt_irrefl _ fewer

theorem landWhole (houses : s.Houses) (tidy : Tidy s.tagged) {why : Failure} (untagged : o.tags = .error why)
    (early : ¬ (s.entries.has key = false ∧ s.capacity ≤ s.entries.size ∨ s.Listed key)) :
    land now key ttl data o s = (.error (.of why),s) := by
  obtain ⟨s₁,room,landed⟩ := @landUntagged τ s key _ now ttl data o houses why untagged
  rcases makeRoomOk room with ⟨-,rfl⟩ | ⟨absent,full,-⟩
  · rw [landed,forgottenUnlisted tidy fun listed => early (.inr listed)]
  · exact absurd (.inl ⟨absent,full⟩) early

theorem accessedHouses (houses : s.Houses) (now : τ) (key : String) : (s.accessed now key).Houses :=
  (@Houses.still τ s (s.accessed now key) houses rfl rfl rfl).houses

theorem tearsFails (houses : s.Houses) {why : Failure} (tears : s.Tears now raw data o key why) :
    ∃ s', set now raw data o s = (.error (.of why),s') ∧ ¬ s.Untouched s' := by
  obtain ⟨lands,untagged,late⟩ := tears
  obtain ⟨s',landed,touched⟩ := @landTorn τ (s.accessed now key) key _ now (o.ttl.getD (s.ttlFor key)) data o
    (accessedHouses houses now key) why untagged late
  rw [setLands lands]
  exact ⟨s',landed,fun ⟨entries,tagged,evictions,size⟩ => touched ⟨entries,tagged,evictions,size⟩⟩

theorem failsWhole (houses : s.Houses) (tidy : Tidy s.tagged) {f : Fault}
    (failed : set now raw data o s = (.error f,s')) (sound : ∀ key why, ¬ s.Tears now raw data o key why) :
    ∃ l, s' = { s with limiter := l } := by
  rcases stopsOrLands s now raw data o with ⟨why,s₁,stops⟩ | ⟨key,lands⟩
  · cases (setStops stops).symm.trans failed
    exact stops.limiter
  · have houses' := accessedHouses houses now key
    rw [setLands lands] at failed
    cases given : o.tags with
    | ok tags =>
      obtain ⟨s₁,landed⟩ := @landTagged τ (s.accessed now key) key _ now (o.ttl.getD (s.ttlFor key)) data o houses'
        tags given
      cases landed.symm.trans failed
    | error why =>
      have landed := @landWhole τ (s.accessed now key) key _ now (o.ttl.getD (s.ttlFor key)) data o houses' tidy why
        given fun late => sound key why ⟨lands,given,late⟩
      cases landed.symm.trans failed
      exact ⟨_,rfl⟩

end Store

namespace Coordinator
variable {τ : Type} [Quantity τ]

/-- In every run of a store that was new and whose sink takes what it is told: a write that fails leaves entries,
index, evictions and size as they were exactly if it does not tear, and then all but the limiter; and a write that
tears does fail. -/
theorem failsWholeIff {capacity : Int} {ttlFor : String → τ} {gate : Gate} {limiter : Limiter τ} {meter : Meter τ}
    {store : Store τ} (made : Store.create capacity ttlFor gate limiter meter = .ok store)
    (takes : meter.sink.Takes capacity.toNat) {c : Coordinator τ} (holds : c.store = store) {run : List (τ × Use τ)}
    (within : ∀ m ∈ run, m.2.Within Meter.RemovesNone) :
    let s := (c.used run).store
    ∀ now raw data o,
      (∀ f s', Store.set now raw data o s = (.error f,s') →
        (s.Untouched s' ↔ ∀ key why, ¬ s.Tears now raw data o key why) ∧
        (s.Untouched s' → ∃ l, s' = { s with limiter := l })) ∧
      ∀ key why, s.Tears now raw data o key why →
        ∃ s', Store.set now raw data o s = (.error (.of why),s') ∧ ¬ s.Untouched s' := by
  intro s now raw data o
  have trail := usedTrail Meter.workingRemovesNone Meter.lookingRemovesNone c within
  rw [holds] at trail
  have houses : s.Houses := (Store.trailAdds (Store.createHouses made takes) trail).houses
  have tidy := (usedStanding Meter.workingRemovesNone Meter.lookingRemovesNone made holds within).tidy
  refine ⟨fun f s' failed => ?_,fun key why tears => Store.tearsFails houses tears⟩
  have whole (sound : ∀ key why, ¬ s.Tears now raw data o key why) := Store.failsWhole houses tidy failed sound
  have sound (untouched : s.Untouched s') (key : String) (why : Failure) : ¬ s.Tears now raw data o key why := by
    intro tears
    obtain ⟨s₁,torn,touched⟩ := Store.tearsFails houses tears
    cases torn.symm.trans failed
    exact touched untouched
  refine ⟨⟨sound,fun sound => ?_⟩,fun untouched => whole (sound untouched)⟩
  obtain ⟨l,rfl⟩ := whole sound
  exact ⟨rfl,rfl,rfl,rfl⟩

def labelledDay : List (Number × Use Number) := [
  (.whole 1000,.errand (.set (.str "a") (.int 1) (Store.tagging ["x"])))]

def nested : Options Number := { Options.none Number with tags := Tag.collectGiven (.list [.list [.str "u"]]) }

def nestedWrite (key : String) (s : Store Number) : Except Fault String × Store Number :=
  Store.set (.whole 1001) (.str key) (.int 2) nested s

theorem labelledTorn :
    let s := (narrowCache.used labelledDay).store
    Store.create 1 (fun _ => .whole 60) ⟨[],8,100⟩ (.create 0 (.whole 60)) Store.narrowStore.meter =
        .ok Store.narrowStore ∧
      Store.narrowStore.meter.sink.Takes 1 ∧ (∀ m ∈ labelledDay, m.2.Within Meter.RemovesNone) ∧
      s.Tears (.whole 1001) (.str "a") (.int 2) nested "a" (.unhashable "list") ∧
      nestedWrite "a" s = (.error (.of (.unhashable "list")),(nestedWrite "a" s).2) ∧
      ¬ s.Untouched (nestedWrite "a" s).2 ∧
      nestedWrite "far too long" s = (.error (.of (.keyTooLong 12 8)),(nestedWrite "far too long" s).2) ∧
      s.Untouched (nestedWrite "far too long" s).2 := by
  have made : Store.create 1 (fun _ => .whole 60) ⟨[],8,100⟩ (.create 0 (.whole 60)) Store.narrowStore.meter =
      .ok Store.narrowStore := rfl
  have holds : narrowCache.store = Store.narrowStore := rfl
  have within : ∀ m ∈ labelledDay, m.2.Within Meter.RemovesNone := by simp [labelledDay,Use.Within]
  have takes : Store.narrowStore.meter.sink.Takes 1 := trivial
  have whole := failsWholeIff made takes holds within (.whole 1001)
  have tears : (narrowCache.used labelledDay).store.Tears (.whole 1001) (.str "a") (.int 2) nested "a"
      (.unhashable "list") :=
    ⟨⟨rfl,by decide,⟨1,rfl⟩,by decide⟩,rfl,.inr ⟨_,.text "x",rfl,List.mem_cons_self,List.mem_cons_self⟩⟩
  have failed : nestedWrite "far too long" (narrowCache.used labelledDay).store =
      (.error (.of (.keyTooLong 12 8)),(nestedWrite "far too long" (narrowCache.used labelledDay).store).2) := rfl
  have unnamed : ∀ key why, ¬ (narrowCache.used labelledDay).store.Tears (.whole 1001) (.str "far too long") (.int 2)
      nested key why := fun key why tears => by cases tears.lands.admitted
  obtain ⟨s',torn,touched⟩ := (whole (.str "a") (.int 2) nested).2 _ _ tears
  have torn' : nestedWrite "a" (narrowCache.used labelledDay).store = (.error (.of (.unhashable "list")),s') := torn
  refine ⟨made,takes,within,tears,?_,?_,failed,?_⟩
  · rw [torn']
  · rwa [torn']
  · exact ((whole (.str "far too long") (.int 2) nested).1 _ _ failed).1.mpr unnamed

/-- A new key in the full store: the write fails, and the entry that was there is gone and counted. -/
theorem nestedEvicts :
    let s := (narrowCache.used labelledDay).store
    nestedWrite "b" s = (.error (.of (.unhashable "list")),(nestedWrite "b" s).2) ∧
      s.entries.keys = ["a"] ∧ (nestedWrite "b" s).2.entries.keys = [] ∧
      s.keysForTag (.text "x") = ["a"] ∧ (nestedWrite "b" s).2.keysForTag (.text "x") = [] ∧
      s.meter.removals = (0,0,1) ∧ (nestedWrite "b" s).2.meter.removals = (1,0,0) :=
  ⟨rfl,rfl,rfl,rfl,rfl,rfl,rfl⟩

end Coordinator

end ReadThrough
