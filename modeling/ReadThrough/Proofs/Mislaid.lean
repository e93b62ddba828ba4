import ReadThrough.Proofs.Torn

/-! Entries that the index has lost. A write that fails on its tags has taken its key out of the index by then, and
an entry of the key stays, listed under none of its tags. Nothing else loses an entry. -/
namespace ReadThrough
variable {τ : Type} [Quantity τ]

namespace Store
variable {s s' : Store τ} {key : String} {now ttl : τ} {raw data : Value} {o : Options τ}

omit [Quantity τ] in
theorem forgottenUnindexed (listed : s.Listed key) : ¬ (s.forgotten key).Indexed := by
  obtain ⟨e,tag,held,own,-⟩ := listed
  intro indexed
  have still := (indexed tag key).mpr ⟨e,by rwa [forgottenEntries],own⟩
  exact ((forgottenKeys s key tag key).mp still).2 ⟨rfl,e,held,own⟩

omit [Quantity τ] in
theorem forgottenIndexed (indexed : s.Indexed) (unlisted : ¬ s.Listed key) : (s.forgotten key).Indexed := by
  intro tag k
  rw [forgottenKeys,forgottenEntries,indexed tag k,and_iff_left_iff_imp]
  rintro - ⟨rfl,e,held,own⟩
  exact unlisted ⟨e,tag,held,own,(indexed tag k).mpr ⟨e,held,own⟩⟩

theorem landUnlists {why : Failure} (untagged : o.tags = .error why) (listed : s.Listed key) :
    land now key ttl data o s = (.error (.of why),s.forgotten key) := by
  obtain ⟨e,-,held,-⟩ := listed
  have room : makeRoom now key s = (.ok (),s) := by
    rw [makeRoom,Op.bind_ok (show Op.read s = (.ok s,s) from rfl),if_neg (by simp [Assoc.has,held])]
    rfl
  have freed : forgetTags key s = (.ok (),s.forgotten key) := rfl
  rw [land,Op.bind_ok room,Op.bind_ok freed,untagged]
  rfl

theorem landIndexed {why : Failure} (indexed : s.Indexed) (untagged : o.tags = .error why)
    (unlisted : ¬ s.Listed key) : (land now key ttl data o s).2.Indexed := by
  have chain := makeRoomChain now key s
  have kept : (makeRoom now key s).2.Indexed := chainIndexed (fun _ removal => removal) chain indexed
  rw [land,Op.bind_apply,untagged]
  rcases made : makeRoom now key s with ⟨f | u,s₁⟩
  · rwa [made] at kept
  · rw [made] at kept chain
    refine forgottenIndexed kept fun listed => ?_
    rcases makeRoomOk made with ⟨-,rfl⟩ | ⟨absent,-,-⟩
    · exact unlisted listed
    · obtain ⟨e,tag,held,-⟩ := listed
      have before := (chainEntries chain held).resolve_right fun written => written
      simp [Assoc.has,before] at absent

theorem setUnindexed {why : Failure} (tears : s.Tears now raw data o key why) (listed : s.Listed key) :
    ¬ (set now raw data o s).2.Indexed := by
  rw [setLands tears.lands,landUnlists (s := s.accessed now key) tears.untagged listed]
  exact forgottenUnindexed (s := s.accessed now key) listed

theorem setIndexed (indexed : s.Indexed) (whole : ∀ key why, s.Tears now raw data o key why → ¬ s.Listed key) :
    (set now raw data o s).2.Indexed := by
  rcases stopsOrLands s now raw data o with ⟨why,s₁,stops⟩ | ⟨key,lands⟩
  · rw [setStops stops]
    obtain ⟨l,rfl⟩ := stops.limiter
    exact indexed
  · cases given : o.tags with
    | ok tags => exact chainIndexed (fun _ bad => bad) (setFaithful now raw data ⟨tags,given⟩ s) indexed
    | error why =>
      have unlisted : ¬ s.Listed key := fun listed => whole key why ⟨lands,given,.inr listed⟩ listed
      rw [setLands lands]
      exact landIndexed (s := s.accessed now key) indexed given unlisted

/-! The calls of a trail. -/

def Call.after (k : Call τ) : Store τ := (set k.now k.raw k.data k.options k.store).2

/-- The call fails on its tags, over an entry that the index lists. -/
def Call.Mislays (k : Call τ) : Prop :=
  ∃ key why, k.store.Tears k.now k.raw k.data k.options key why ∧ k.store.Listed key

theorem Call.indexedIff {k : Call τ} (indexed : k.store.Indexed) : k.after.Indexed ↔ ¬ k.Mislays := by
  constructor
  · rintro kept ⟨key,why,tears,listed⟩
    exact setUnindexed tears listed kept
  · exact fun whole => setIndexed indexed fun key why tears listed => whole ⟨key,why,tears,listed⟩

variable {r : Meter τ → Meter τ → Prop} {calls : List (Call τ)}

theorem trailKeeps {P : Call τ → Prop} (step : ∀ k, k.store.Indexed → P k → k.after.Indexed)
    (trail : Trail r s calls s') (indexed : s.Indexed) (all : ∀ k ∈ calls, P k) :
    s'.Indexed ∧ ∀ k ∈ calls, k.store.Indexed := by
  -- the index is whole before each call, so what is known of a call need only hold there
  induction trail with
  | start => exact ⟨indexed,by simp⟩
  | deed _ done ih =>
    obtain ⟨kept,met⟩ := ih all
    have faithful : Relation.ReflTransGen (Change Faithful) _ _ :=
      deedChain (fun p removal => by cases p <;> trivial) trivial done
    exact ⟨chainIndexed (fun _ bad => bad) faithful kept,met⟩
  | @call calls s₁ _ now raw data o ih =>
    obtain ⟨kept,met⟩ := ih fun k earlier => all k (List.mem_append_left _ earlier)
    refine ⟨step ⟨s₁,now,raw,data,o⟩ kept (all _ (List.mem_append_right _ List.mem_cons_self)),fun k called => ?_⟩
    rcases List.mem_append.mp called with earlier | last
    · exact met k earlier
    · cases List.mem_singleton.mp last
      exact kept

theorem trailWhole (trail : Trail r s calls s') (indexed : s.Indexed) (whole : ∀ k ∈ calls, ¬ k.Mislays) :
    s'.Indexed := (trailKeeps (fun _ kept => (Call.indexedIff kept).mpr) trail indexed whole).1

theorem trailWholeIff (trail : Trail r s calls s') (indexed : s.Indexed) :
    (∀ k ∈ calls, k.after.Indexed) ↔ ∀ k ∈ calls, ¬ k.Mislays := by
  constructor
  · intro kept k called
    have met := (trailKeeps (fun _ _ after => after) trail indexed kept).2 k called
    exact (Call.indexedIff met).mp (kept k called)
  · intro whole k called
    have met := (trailKeeps (fun _ kept => (Call.indexedIff kept).mpr) trail indexed whole).2 k called
    exact (Call.indexedIff met).mpr (whole k called)

end Store

namespace Coordinator
variable {c : Coordinator τ} {run : List (τ × Use τ)} {capacity : Int} {ttlFor : String → τ} {gate : Gate}
  {limiter : Limiter τ} {meter : Meter τ} {store : Store τ}

theorem labelledWhole (c : Coordinator τ) (labelled : ∀ m ∈ run, m.2.Labelled) :
    ∀ k ∈ c.runCalls run, ¬ k.Mislays := by
  rintro k called ⟨key,why,tears,-⟩
  obtain ⟨tags,given⟩ := c.runCallsLabelled labelled called
  cases given.symm.trans tears.untagged

theorem usedWhole (made : Store.create capacity ttlFor gate limiter meter = .ok store) (holds : c.store = store)
    (within : ∀ m ∈ run, m.2.Within fun _ _ => True) :
    ((∀ k ∈ c.runCalls run, k.after.Indexed) ↔ ∀ k ∈ c.runCalls run, ¬ k.Mislays) ∧
      ((∀ k ∈ c.runCalls run, ¬ k.Mislays) → (c.used run).store.Indexed) := by
  have trail := usedTrail Meter.workingAny Meter.lookingAny c within
  obtain rfl := Store.createOk made
  rw [holds] at trail
  have indexed : (Store.mk capacity.toNat ttlFor gate limiter meter .empty .empty).Indexed := fun tag key => by
    simp [Store.keysForTag]
  exact ⟨Store.trailWholeIff trail indexed,Store.trailWhole trail indexed⟩

end Coordinator

end ReadThrough
