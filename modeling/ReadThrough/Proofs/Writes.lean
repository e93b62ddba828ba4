import ReadThrough.Proofs.Index

/-! What each operation on the store comes to, in pieces. Reads only count. A removal takes out what
it names and nothing else. A write that gets as far as the store leaves the entry it was asked for
under the admitted key, and may push one entry out before. -/
namespace ReadThrough.Store
open Relation
variable {τ : Type} {may : Piece τ → Prop}

/-! Counting. -/

theorem meteredChain {α : Type} (x : Op (Meter τ) α) : Op.Moves (Change may) (metered x) :=
  Op.movesWithin fun s m => .counted s.limiter m

theorem reportChain [Quantity τ] : Op.Moves (Change may) (reportSize : Op (Store τ) Unit) :=
  Op.movesBind Op.movesRead fun _ => meteredChain _

theorem accountChain [Quantity τ] {α : Type} (removed : Prop) [Decidable removed] (x : Op (Meter τ) Unit)
    (a : α) : Op.Moves (Change may) (do
      if removed then
        metered x
        reportSize
      pure a) := by
  split
  · exact Op.movesBind (meteredChain _) fun _ => Op.movesBind reportChain fun _ => Op.movesPure _
  · exact Op.movesPure _

theorem admitChain (raw : Value) : Op.Moves (Change may) (admitKey raw) := fun _ => .refl

theorem admitKeyPasses {raw : Value} {s : Store τ} {key : String}
    (admitted : s.gate.admitKey raw = .ok key) : admitKey raw s = (.ok key,s) := by
  rw [admitKey,admitted]
  rfl

theorem admitKeyRefuses {raw : Value} {s : Store τ} {why : Failure}
    (refused : s.gate.admitKey raw = .error why) : admitKey raw s = (.error (.of why),s) := by
  rw [admitKey,refused]
  rfl

theorem admitKeyOk {raw : Value} {s s' : Store τ} {key : String}
    (done : admitKey raw s = (.ok key,s')) : s.gate.admitKey raw = .ok key ∧ s' = s := by
  cases admitted : s.gate.admitKey raw with
  | error why => cases (admitKeyRefuses admitted).symm.trans done
  | ok k =>
    cases (admitKeyPasses admitted).symm.trans done
    exact ⟨rfl,rfl⟩

theorem createOk {capacity : Int} {ttlFor : String → τ} {gate : Gate} {limiter : Limiter τ}
    {meter : Meter τ} {s : Store τ} (made : create capacity ttlFor gate limiter meter = .ok s) :
    s = ⟨capacity.toNat,ttlFor,gate,limiter,meter,.empty,.empty⟩ := by
  unfold create at made
  split at made
  · cases made
  · cases made
    rfl

theorem createRoomy {capacity : Int} {ttlFor : String → τ} {gate : Gate} {limiter : Limiter τ} {meter : Meter τ}
    {s : Store τ} (made : create capacity ttlFor gate limiter meter = .ok s) : 0 < capacity.toNat := by
  unfold create at made
  split at made
  · cases made
  · omega

variable [Quantity τ]

theorem limitChain (now : τ) (key : String) : Op.Moves (Change may) (limit now key) := by
  intro s
  unfold limit
  split <;> exact .single (.counted _ s.meter)

theorem limitAfter (now : τ) (key : String) (s : Store τ) :
    ∃ l, (limit now key s).2 = { s with limiter := l } := by
  unfold limit
  split <;> exact ⟨_,rfl⟩

theorem accessChain (now : τ) (raw : Value) : Op.Moves (Change may) (accessKey now raw) :=
  Op.movesBind (admitChain raw) fun key => Op.movesBind (limitChain now key) fun _ => Op.movesPure _

theorem accessAfter (now : τ) (raw : Value) (s : Store τ) :
    ∃ l, (accessKey now raw s).2 = { s with limiter := l } := by
  cases admitted : s.gate.admitKey raw with
  | error why =>
    rw [accessKey,Op.bind_error (admitKeyRefuses admitted)]
    exact ⟨s.limiter,rfl⟩
  | ok key =>
    obtain ⟨l,same⟩ := limitAfter now key s
    refine ⟨l,?_⟩
    rw [accessKey,Op.bind_ok (admitKeyPasses admitted),Op.bind_apply]
    cases limited : limit now key s with
    | mk result s₁ =>
      rw [limited] at same
      cases result <;> exact same

theorem accessKeyOk {now : τ} {raw : Value} {s s' : Store τ} {key : String}
    (done : accessKey now raw s = (.ok key,s')) :
    s.gate.admitKey raw = .ok key ∧ ∃ l, s' = { s with limiter := l } := by
  have after := accessAfter now raw s
  rw [done] at after
  obtain ⟨k,s₁,first,rest⟩ := Op.bindOk done
  obtain ⟨admitted,rfl⟩ := admitKeyOk first
  obtain ⟨u,s₂,limited,last⟩ := Op.bindOk rest
  cases last
  exact ⟨admitted,after⟩

/-! Reads. -/

theorem getChain (now : τ) (raw : Value) : Op.Moves (Change may) (get now raw) := by
  refine Op.movesBind (accessChain now raw) fun key => Op.movesBind Op.movesRead fun s => ?_
  split
  · exact Op.movesBind (meteredChain _) fun _ => Op.movesPure _
  · split <;> exact Op.movesBind (meteredChain _) fun _ => Op.movesPure _

theorem getEntryChain (now : τ) (raw : Value) : Op.Moves (Change may) (getEntry now raw) :=
  Op.movesBind (accessChain now raw) fun _ => Op.movesBind Op.movesRead fun _ => Op.movesPure _

theorem getStaleChain (now : τ) (raw : Value) : Op.Moves (Change may) (getStale now raw) := by
  refine Op.movesBind (accessChain now raw) fun key => Op.movesBind Op.movesRead fun s => ?_
  split
  · exact Op.movesBind (meteredChain _) fun _ => Op.movesPure _
  · split <;> exact Op.movesBind (meteredChain _) fun _ => Op.movesPure _

theorem getStaleOk {now : τ} {raw : Value} {s s' : Store τ} {l : Lookup τ}
    (done : getStale now raw s = (.ok (some l),s')) :
    s.gate.admitKey raw = .ok l.key ∧ s.entries.get? l.key = some l.entry := by
  obtain ⟨key,s₁,first,rest⟩ := Op.bindOk done
  obtain ⟨admitted,lim,rfl⟩ := accessKeyOk first
  obtain ⟨s₂,s₃,read,rest⟩ := Op.bindOk rest
  cases read
  cases found : s.entries.get? key with
  | none =>
    simp only [found] at rest
    obtain ⟨_,_,-,last⟩ := Op.bindOk rest
    cases last
  | some e =>
    simp only [found] at rest
    split at rest
    all_goals
      obtain ⟨_,_,-,last⟩ := Op.bindOk rest
      cases last
      exact ⟨admitted,found⟩

/-! Removal. -/

omit [Quantity τ] in
theorem removeAllChain (s : Store τ) (keys : List String) :
    ReflTransGen (Change Removals) s (s.removeAll keys).2 := by
  induction keys generalizing s with
  | nil => exact .refl
  | cons key rest ih =>
    rw [removeAllCons]
    exact .head (.removed trivial) (ih _)

theorem deleteAfter {now : τ} {raw : Value} {s : Store τ} {key : String}
    (admitted : s.gate.admitKey raw = .ok key) :
    ReflTransGen (Change may) (s.remove key).2 (delete now raw s).2 := by
  rw [delete,Op.bind_ok (admitKeyPasses admitted)]
  exact accountChain _ _ _ (s.remove key).2

theorem deleteGet {now : τ} {raw : Value} {s : Store τ} {key k : String} {e : Entry τ}
    (admitted : s.gate.admitKey raw = .ok key) (found : (delete now raw s).2.entries.get? k = some e) :
    key ≠ k ∧ s.entries.get? k = some e := by
  obtain ⟨l,m,after⟩ := chainStill (@deleteAfter τ Still _ now raw s key admitted)
  rw [after,removeGet] at found
  split at found
  · cases found
  · rename_i other
    exact ⟨other,found⟩

theorem deleteChain (now : τ) (raw : Value) : Op.Moves (Change Removals) (delete now raw) := by
  intro s
  cases admitted : s.gate.admitKey raw with
  | error why => rw [delete,Op.bind_error (admitKeyRefuses admitted)]
  | ok key => exact .head (.removed trivial) (deleteAfter admitted)

theorem removeManyAfter (now : τ) (keys : List String) (reason : String) (s : Store τ) :
    ReflTransGen (Change may) (s.removeAll keys).2 (removeMany now keys reason s).2 :=
  accountChain _ _ _ (s.removeAll keys).2

theorem removeManyChain (now : τ) (keys : List String) (reason : String) :
    Op.Moves (Change Removals) (removeMany now keys reason) :=
  fun s => (removeAllChain s keys).trans (removeManyAfter now keys reason s)

theorem removeManyGet {now : τ} (keys : List String) {reason : String} {s : Store τ} {key : String}
    {e : Entry τ} (found : (removeMany now keys reason s).2.entries.get? key = some e) :
    key ∉ keys ∧ s.entries.get? key = some e := by
  obtain ⟨l,m,after⟩ := chainStill (removeManyAfter now keys reason s)
  rw [after,removeAllGet] at found
  split at found
  · cases found
  · rename_i other
    exact ⟨other,found⟩

omit [Quantity τ] in
theorem keysForTagsMem {s : Store τ} (indexed : s.Indexed) (tags : List Tag) (key : String) :
    key ∈ s.keysForTags tags ↔ ∃ e, s.entries.get? key = some e ∧ ∃ tag ∈ tags, tag ∈ e.tags := by
  rw [keysForTags,List.mem_eraseDups,List.mem_flatMap]
  constructor
  · rintro ⟨tag,named,listed⟩
    obtain ⟨e,found,carried⟩ := (indexed tag key).mp listed
    exact ⟨e,found,tag,named,carried⟩
  · rintro ⟨e,found,tag,named,carried⟩
    exact ⟨tag,named,(indexed tag key).mpr ⟨e,found,carried⟩⟩

def Covers (s : Store τ) (tags : List Tag) : Prop :=
  ∀ key e, s.entries.get? key = some e → (∃ tag ∈ tags, tag ∈ e.tags) → key ∈ s.keysForTags tags

omit [Quantity τ] in
theorem Indexed.covers {s : Store τ} (indexed : s.Indexed) (tags : List Tag) : s.Covers tags :=
  fun key e found carried => (keysForTagsMem indexed tags key).mpr ⟨e,found,carried⟩

theorem sweepTagsEntry (now : τ) (tags : List Tag) (s : Store τ) (key : String) :
    (sweepTags now tags s).2.entries.get? key = if key ∈ s.keysForTags tags then none else s.entries.get? key := by
  obtain ⟨l,m,after⟩ := chainStill (removeManyAfter now (s.keysForTags tags) "tag" s)
  change (removeMany now (s.keysForTags tags) "tag" s).2.entries.get? key = _
  rw [after]
  exact removeAllGet s (s.keysForTags tags) key

theorem sweepTagsGet {now : τ} {tags : List Tag} {s : Store τ} (covers : s.Covers tags) {key : String}
    {e : Entry τ} (found : (sweepTags now tags s).2.entries.get? key = some e) :
    s.entries.get? key = some e ∧ ∀ tag ∈ tags, tag ∉ e.tags := by
  obtain ⟨kept,before⟩ := removeManyGet (s.keysForTags tags) found
  exact ⟨before,fun tag named carried => kept (covers key e before ⟨tag,named,carried⟩)⟩

theorem sweepKeysGet {now : τ} {matching : String → Bool} {s : Store τ} {key : String} {e : Entry τ}
    (found : (sweepKeys now matching s).2.entries.get? key = some e) :
    s.entries.get? key = some e ∧ matching key = false := by
  obtain ⟨kept,before⟩ := removeManyGet (s.entries.keys.filter matching) found
  refine ⟨before,?_⟩
  cases matches' : matching key with
  | false => rfl
  | true => exact absurd (List.mem_filter.mpr ⟨Assoc.memKeys.mpr ⟨e,before⟩,matches'⟩) kept

theorem sweepVersionGet {s : Store τ} (distinct : s.entries.Distinct) (now : τ) (current : Option String)
    (key : String) : (sweepVersion now current s).2.entries.get? key =
      (s.entries.get? key).filter fun e => !isOutdated current e := by
  let keys := (s.entries.entries.filter fun e => isOutdated current e.2).map (·.1)
  obtain ⟨l,m,after⟩ := chainStill (removeManyAfter now keys "version" s)
  change (removeMany now keys "version" s).2.entries.get? key = _
  rw [after,removeAllGet]
  cases found : s.entries.get? key with
  | none => simp
  | some e =>
    have listed : key ∈ keys ↔ isOutdated current e = true := by
      constructor
      · intro mem
        obtain ⟨⟨k,e'⟩,kept,rfl⟩ := List.mem_map.mp mem
        obtain ⟨stored,outdated⟩ := List.mem_filter.mp kept
        cases found.symm.trans (Assoc.memGet distinct stored)
        exact outdated
      · intro outdated
        exact List.mem_map.mpr ⟨(key,e),List.mem_filter.mpr ⟨Assoc.getMem found,outdated⟩,rfl⟩
    simp only [listed,Option.filter_some]
    cases isOutdated current e <;> rfl

theorem sweepTagsChain (now : τ) (tags : List Tag) :
    Op.Moves (Change Removals) (sweepTags now tags) :=
  Op.movesBind Op.movesRead fun _ => removeManyChain now _ _

theorem sweepKeysChain (now : τ) (matching : String → Bool) :
    Op.Moves (Change Removals) (sweepKeys now matching) :=
  Op.movesBind Op.movesRead fun _ => removeManyChain now _ _

theorem sweepVersionChain (now : τ) (current : Option String) :
    Op.Moves (Change Removals) (sweepVersion now current) :=
  Op.movesBind Op.movesRead fun _ => removeManyChain now _ _

theorem clearAfter (now : τ) (s : Store τ) :
    ReflTransGen (Change may) { s with entries := .empty, tagged := .empty } (clear now s).2 := by
  refine Op.movesBind (meteredChain _) (fun _ => ?_) { s with entries := .empty, tagged := .empty }
  exact Op.movesBind (meteredChain _) fun _ => Op.movesPure s.entries.size

theorem clearGet {now : τ} {s : Store τ} {key : String} :
    (clear now s).2.entries.get? key = none := by
  obtain ⟨l,m,after⟩ := chainStill (clearAfter now s)
  rw [after]
  rfl

/-! Writes. -/

theorem evictChain (now : τ) : Op.Moves (Change Removals) (evict now) := by
  refine Op.movesBind Op.movesRead fun s => ?_
  split
  · exact Op.movesPure _
  · exact Op.movesBind (Op.movesStep fun _ => .removed trivial) fun _ =>
      Op.movesBind (meteredChain _) fun _ => Op.movesBind reportChain fun _ => Op.movesPure _

theorem makeRoomChain (now : τ) (key : String) :
    Op.Moves (Change Removals) (makeRoom now key) := by
  refine Op.movesBind Op.movesRead fun s => ?_
  split
  · exact Op.movesBind (evictChain now) fun _ => Op.movesPure _
  · exact Op.movesPure _

structure Written (g : Gate) (ttlFor : String → τ) (now : τ) (raw data : Value) (o : Options τ)
    (key : String) (e : Entry τ) : Prop where
  admitted : g.admitKey raw = .ok key
  weighed : ∃ size, g.measure data = .ok size
  lasting : ¬ e.ttl ≤ Quantity.ofInt 0
  entry : ∃ tags, o.tags = .ok tags ∧ e = ⟨data,now,o.ttl.getD (ttlFor key),tags,o.version,o.etag⟩

def Writes (g : Gate) (ttlFor : String → τ) (now : τ) (raw data : Value) (o : Options τ) :
    Piece τ → Prop
  | .removed _ => True
  | .emptied => False
  | .unlabelled _ => ∃ why, o.tags = .error why
  | .written key e => Written g ttlFor now raw data o key e

omit [Quantity τ] in
theorem weighAfter (data : Value) (s : Store τ) : (weigh data s).2 = s := by
  unfold weigh
  split <;> rfl

omit [Quantity τ] in
theorem weighOk {data : Value} {s s' : Store τ} {u : Unit} (done : weigh data s = (.ok u,s')) :
    (∃ size, s.gate.measure data = .ok size) ∧ s' = s := by
  unfold weigh at done
  split at done
  · rename_i size measured
    cases done
    exact ⟨⟨size,measured⟩,rfl⟩
  · cases done

omit [Quantity τ] in
theorem weighChain (data : Value) : Op.Moves (Change may) (weigh (τ := τ) data) := by
  intro s
  unfold weigh
  split <;> exact .refl

theorem setChain (now : τ) (raw data : Value) (o : Options τ) (s : Store τ) :
    ReflTransGen (Change (Writes s.gate s.ttlFor now raw data o)) s (set now raw data o s).2 := by
  refine Op.chainBind (accessChain now raw s) fun key s₁ accessed => ?_
  obtain ⟨admitted,l,rfl⟩ := accessKeyOk accessed
  refine Op.chainBind (weighChain data _) fun _ s₂ passed => ?_
  obtain ⟨weighed,rfl⟩ := weighOk passed
  refine Op.chainBind .refl fun s₃ s₄ read => ?_
  cases read
  dsimp only
  split
  · exact .refl
  rename_i lasting
  refine Op.chainBind (chainMono ?_ (makeRoomChain now key _)) fun _ s₅ _ => ?_
  · intro p allowed
    cases p with
    | removed k => trivial
    | emptied => exact allowed
    | unlabelled k => exact allowed.elim
    | written k e => exact allowed.elim
  cases given : o.tags with
  | error why => exact .single (.unlabelled ⟨why,given⟩)
  | ok tags =>
    refine .head (.written ⟨admitted,weighed,lasting,tags,given,rfl⟩) ?_
    exact Op.movesBind reportChain (fun _ => Op.movesPure key) _

end ReadThrough.Store
