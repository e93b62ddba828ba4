import ReadThrough.Proofs.Follows

/-! A store is its history. Where nothing limits the accesses and the sink takes the counts, every read is
answered from the last write of its key, whatever errands came before. -/
namespace ReadThrough.Store
variable {τ : Type} [Quantity τ] {s : Store τ} {t : Terms τ} {past : List (Piece τ)}

/-! Reads. -/

omit [Quantity τ] in
theorem Follows.finds (follows : Follows t past s) (raw : Value) :
    Store.has raw s = ((t.gate.admitKey raw).mapError Fault.of |>.map fun key => (lastWrite past key).isSome,s) := by
  have gate : s.gate = t.gate := congrArg Terms.gate follows.terms
  cases admitted : t.gate.admitKey raw with
  | error why => rw [Store.has,Op.bind_error (admitKeyRefuses (gate ▸ admitted))]; rfl
  | ok key =>
    rw [Store.has,Op.bind_ok (admitKeyPasses (gate ▸ admitted)),
      Op.bind_ok (show Op.read s = (.ok s,s) from rfl),Assoc.has,follows.get]
    rfl

theorem Follows.entry (follows : Follows t past s) (now : τ) (raw : Value) :
    Store.getEntry now raw s = ((t.asked raw).map (lastWrite past),s) := by
  have access := follows.admits now raw
  cases asked : t.asked raw with
  | error f => rw [asked] at access; rw [getEntry,Op.bind_error access]; rfl
  | ok key =>
    rw [asked] at access
    rw [getEntry,Op.bind_ok access,Op.bind_ok (show Op.read s = (.ok s,s) from rfl),follows.get]
    rfl

/-- The data of a key whose last write has not outlasted its time to live: it is no older, or one of the two is not
defined as a number and compares with nothing. -/
def lasting (past : List (Piece τ)) (now : τ) (key : String) : Option Value :=
  ((lastWrite past key).filter fun e => decide (¬ e.ttl < now - e.stamp)).map (·.data)

def found (past : List (Piece τ)) (now : τ) (key : String) : Option (Lookup τ) :=
  (lastWrite past key).map fun e => ⟨key,decide (e.ttl < now - e.stamp),e⟩

theorem Follows.gets (follows : Follows t past s) (now : τ) (raw : Value) :
    ∃ m, Store.get now raw s = ((t.asked raw).map (lasting past now),{ s with meter := m }) ∧
      m.sink.Takes t.capacity := by
  have access := follows.admits now raw
  cases asked : t.asked raw with
  | error f =>
    rw [asked] at access
    rw [Store.get,Op.bind_error access]
    exact ⟨s.meter,rfl,follows.takes⟩
  | ok key =>
    rw [asked] at access
    rw [Store.get,Op.bind_ok access,Op.bind_ok (show Op.read s = (.ok s,s) from rfl),follows.get]
    have answer : (Except.ok key : Except Fault String).map (lasting past now) = .ok (lasting past now key) := rfl
    rw [answer,lasting]
    cases lastWrite past key with
    | none => exact meteredTakenThen (Meter.missTaken key) follows.takes none
    | some e =>
      by_cases expired : e.ttl < now - e.stamp
      · simp only [Entry.isExpired,Entry.age,expired,decide_true,if_true,Option.filter_some,not_true_eq_false,
          decide_false,Bool.false_eq_true,if_false,Option.map_none]
        exact meteredTakenThen (Meter.missTaken key) follows.takes none
      · simp only [Entry.isExpired,Entry.age,expired,decide_false,Bool.false_eq_true,if_false,
          Option.filter_some,not_false_eq_true,decide_true,if_true,Option.map_some]
        exact meteredTakenThen (Meter.hitTaken key) follows.takes (some e.data)

theorem Follows.getsStale (follows : Follows t past s) (now : τ) (raw : Value) :
    ∃ m, Store.getStale now raw s = ((t.asked raw).map (found past now),{ s with meter := m }) ∧
      m.sink.Takes t.capacity := by
  have access := follows.admits now raw
  cases asked : t.asked raw with
  | error f =>
    rw [asked] at access
    rw [Store.getStale,Op.bind_error access]
    exact ⟨s.meter,rfl,follows.takes⟩
  | ok key =>
    rw [asked] at access
    rw [Store.getStale,Op.bind_ok access,Op.bind_ok (show Op.read s = (.ok s,s) from rfl),follows.get]
    have answer : (Except.ok key : Except Fault String).map (found past now) = .ok (found past now key) := rfl
    rw [answer,found]
    cases lastWrite past key with
    | none => exact meteredTakenThen (Meter.missTaken key) follows.takes none
    | some e =>
      by_cases expired : e.ttl < now - e.stamp
      · simp only [Entry.isExpired,Entry.age,expired,decide_true,if_true,Option.map_some]
        exact meteredTakenThen (Meter.staleHitTaken key) follows.takes (some (⟨key,true,e⟩ : Lookup τ))
      · simp only [Entry.isExpired,Entry.age,expired,decide_false,Bool.false_eq_true,if_false,Option.map_some]
        exact meteredTakenThen (Meter.hitTaken key) follows.takes (some (⟨key,false,e⟩ : Lookup τ))

theorem Follows.getsBatch (follows : Follows t past s) (now : τ) (raws : List Value) :
    Follows t past (getBatch now raws s).2 := by
  induction raws generalizing s with
  | nil => exact follows
  | cons raw rest ih =>
    obtain ⟨m,ran,takes⟩ := follows.gets now raw
    rw [getBatch]
    cases asked : t.asked raw with
    | error f =>
      rw [asked] at ran
      rw [Op.bind_error ran]
      exact follows.counted takes
    | ok key =>
      rw [asked] at ran
      rw [Op.bind_ok ran,Op.bind_apply]
      have later := ih (follows.counted takes)
      cases others : getBatch now rest { s with meter := m } with
      | mk result s' =>
        rw [others] at later
        cases result <;> exact later

/-! Runs. -/

omit [Quantity τ] in
theorem outdatedKeys (distinct : s.entries.Distinct) (current : Option String) (key : String) :
    key ∈ (s.entries.entries.filter fun e => isOutdated current e.2).map (·.1) ↔
      (s.entries.get? key).any (fun e => decide (e.version ≠ none ∧ e.version ≠ current)) = true := by
  have outdated (e : Entry τ) : isOutdated current e = decide (e.version ≠ none ∧ e.version ≠ current) :=
    Bool.eq_iff_iff.mpr (by simp [isOutdated,Option.isSome_iff_ne_none])
  simp only [outdated,Option.any_eq_true,List.mem_map,List.mem_filter]
  constructor
  · rintro ⟨⟨k,e⟩,⟨stored,old⟩,rfl⟩
    exact ⟨e,Assoc.memGet distinct stored,old⟩
  · rintro ⟨e,stored,old⟩
    exact ⟨(key,e),⟨Assoc.getMem stored,old⟩,rfl⟩

theorem Follows.sweepsTags (follows : Follows t past s) (now : τ) (tags : List Tag) :
    Follows t (past ++ swept past (carries past tags)) (Store.sweepTags now tags s).2 :=
  follows.sweeps now "tag" fun key _ => by
    rw [← follows.carried,keysForTags,List.mem_eraseDups,List.mem_flatMap]

theorem Follows.step (follows : Follows t past s) (now : τ) (a : Errand τ) :
    Follows t (past ++ t.pieces now past a) (s.step now a) := by
  cases a with
  | get raw =>
    obtain ⟨m,ran,takes⟩ := follows.gets now raw
    rw [Store.step,ran,Terms.pieces,List.append_nil]
    exact follows.counted takes
  | getEntry raw =>
    rw [Store.step,follows.entry now raw,Terms.pieces,List.append_nil]
    exact follows
  | getStale raw =>
    obtain ⟨m,ran,takes⟩ := follows.getsStale now raw
    rw [Store.step,ran,Terms.pieces,List.append_nil]
    exact follows.counted takes
  | has raw =>
    rw [Store.step,follows.finds raw,Terms.pieces,List.append_nil]
    exact follows
  | getBatch raws =>
    rw [Store.step,Terms.pieces,List.append_nil]
    exact follows.getsBatch now raws
  | set raw data o => exact (follows.sets now raw data o).2
  | setBatch items => exact (follows.setsAll now items).2
  | delete raw => exact (follows.deletes now raw).2
  | deleteAll raws => exact follows.deletesAll now raws
  | removeMany keys reason => exact follows.removeMany now keys reason
  | clear => exact follows.clears now
  | evict =>
    obtain ⟨gone,s',ran,left,-⟩ := follows.evicts now
    rw [Store.step,ran]
    exact left
  | sweepTag tag =>
    refine follows.sweeps now "tag" fun key _ => ?_
    rw [← follows.carried]
    simp
  | sweepKeys matching =>
    refine follows.sweeps now "pattern" fun key held => ?_
    obtain ⟨e,held⟩ := Option.ne_none_iff_exists'.mp held
    have stored : key ∈ s.entries.keys := Assoc.memKeys.mpr ⟨e,(follows.get key).trans held⟩
    simp [stored]
  | sweepVersion current =>
    refine follows.sweeps now "version" fun key _ => ?_
    rw [outdatedKeys follows.distinct,follows.get]
  | sweepTags tags => exact follows.sweepsTags now tags
  | sweepEntity kind id =>
    rw [Store.step,Terms.pieces,sweepEntity]
    cases Ledger.tagsForEntity kind id with
    | error why => rw [List.append_nil]; exact follows
    | ok names => exact follows.sweepsTags now _

theorem Follows.after (follows : Follows t past s) (run : List (τ × Errand τ)) :
    Follows t (run.foldl (fun past m => past ++ t.pieces m.1 past m.2) past) (s.after run) := by
  induction run generalizing past s with
  | nil => exact follows
  | cons m rest ih => exact ih (follows.step m.1 m.2)

omit [Quantity τ] in
theorem createFollows {capacity : Int} {ttlFor : String → τ} {gate : Gate} {limiter : Limiter τ}
    {meter : Meter τ} (made : create capacity ttlFor gate limiter meter = .ok s)
    (unlimited : limiter.ceiling ≤ 0) (takes : meter.sink.Takes capacity.toNat) :
    Follows ⟨capacity.toNat,ttlFor,gate⟩ [] s := by
  have roomy := createRoomy made
  obtain rfl := createOk made
  exact ⟨rfl,roomy,unlimited,takes,Nat.zero_le _,Assoc.emptyDistinct,rfl,fun tag key => by
    simp [keysForTag,lastLabel]⟩

/-- What a store answers, told from its history: whether a key is there, its entry, its data as long as they
last, and its entry with a warning once they do not. A write that is accepted is the one that adds its entry
to the history, and no read changes an entry. -/
structure Recalls (t : Terms τ) (past : List (Piece τ)) (s : Store τ) : Prop where
  has : ∀ raw, (Store.has raw s).1 = (t.asked raw).map fun key => (lastWrite past key).isSome
  entry : ∀ now raw, (Store.getEntry now raw s).1 = (t.asked raw).map (lastWrite past)
  get : ∀ now raw, (Store.get now raw s).1 = (t.asked raw).map (lasting past now)
  stale : ∀ now raw, (Store.getStale now raw s).1 = (t.asked raw).map (found past now)
  flagged : ∀ now raw l, (Store.getStale now raw s).1 = .ok (some l) →
    (l.stale = true ↔ (Store.get now raw s).1 = .ok none)
  stored : ∀ now raw data o key e, .written key e ∈ (t.write now past raw data o).2 ↔
    (Store.set now raw data o s).1 = .ok key ∧
      ∃ tags, o.tags = .ok tags ∧ e = ⟨data,now,o.ttl.getD (t.ttlFor key),tags,o.version,o.etag⟩
  storedAll : ∀ now items,
    (Store.setBatch now items s).1 = ((t.writeAll now past items).1).mapError Fault.of
  reads : ∀ now (a : Errand τ), a.Reads → (s.step now a).entries = s.entries

theorem foundStale {now : τ} {key : String} {l : Lookup τ} (there : found past now key = some l) :
    l.stale = true ↔ lasting past now key = none := by
  obtain ⟨e,last,rfl⟩ := Option.map_eq_some_iff.mp there
  by_cases expired : e.ttl < now - e.stamp <;> simp [lasting,last,expired]

theorem Follows.recalls (follows : Follows t past s) : Recalls t past s := by
  have get (now : τ) (raw : Value) : (Store.get now raw s).1 = (t.asked raw).map (lasting past now) := by
    obtain ⟨m,ran,-⟩ := follows.gets now raw
    rw [ran]
  have stale (now : τ) (raw : Value) : (Store.getStale now raw s).1 = (t.asked raw).map (found past now) := by
    obtain ⟨m,ran,-⟩ := follows.getsStale now raw
    rw [ran]
  refine ⟨fun raw => congrArg Prod.fst (follows.finds raw),
    fun now raw => congrArg Prod.fst (follows.entry now raw),get,stale,fun now raw l there => ?_,
    fun now raw data o key e => ?_,fun now items => congrArg Prod.fst (follows.setsAll now items).1,
    fun now a reads => readsStill s now reads⟩
  · rw [stale] at there
    rw [get]
    cases asked : t.asked raw with
    | error f => rw [asked] at there; cases there
    | ok key =>
      rw [asked] at there
      rw [foundStale (Except.ok.inj there)]
      exact ⟨congrArg Except.ok,Except.ok.inj⟩
  · rw [Terms.writeStores,(follows.sets now raw data o).1]
    cases (t.write now past raw data o).1 with
    | error why => constructor <;> rintro ⟨refused,-⟩ <;> cases refused
    | ok k => constructor <;> rintro ⟨same,entered⟩ <;> cases same <;> exact ⟨rfl,entered⟩

/-- In every run of a store that was new, reads and writes are answered from its history, as long as no rate limit is
set and the sink takes a size up to the capacity. A sink that fails, as one for numbers does over sizes that it cannot
read, may cut an errand short. -/
theorem storeRecalls {capacity : Int} {ttlFor : String → τ} {gate : Gate} {limiter : Limiter τ}
    {meter : Meter τ} (made : create capacity ttlFor gate limiter meter = .ok s)
    (unlimited : limiter.ceiling ≤ 0) (takes : meter.sink.Takes capacity.toNat)
    (run : List (τ × Errand τ)) :
    Recalls ⟨capacity.toNat,ttlFor,gate⟩ (Terms.history ⟨capacity.toNat,ttlFor,gate⟩ run) (s.after run) :=
  ((createFollows made unlimited takes).after run).recalls

def narrowTerms : Terms Number := ⟨1,narrowStore.ttlFor,narrowStore.gate⟩

theorem crowdedRecalls : narrowStore.limiter.ceiling ≤ 0 ∧ narrowStore.meter.sink.Takes 1 ∧
    Recalls narrowTerms (narrowTerms.history crowded) (narrowStore.after crowded) ∧
    lastWrite (narrowTerms.history crowded) "a_b" = none ∧
    (lasting (narrowTerms.history crowded) (.whole 1004) "c").isSome = true ∧
    ((found (narrowTerms.history crowded) (.whole 1005) "c").map (·.stale)) = some true := by
  have made : create 1 narrowStore.ttlFor narrowStore.gate narrowStore.limiter narrowStore.meter =
      .ok narrowStore := rfl
  have unlimited : narrowStore.limiter.ceiling ≤ 0 := by decide
  have gone : (lastWrite (narrowTerms.history crowded) "a_b").isNone = true := by decide +kernel
  exact ⟨unlimited,trivial,storeRecalls made unlimited trivial crowded,Option.isNone_iff_eq_none.mp gone,
    by decide +kernel,by decide +kernel⟩

end ReadThrough.Store
