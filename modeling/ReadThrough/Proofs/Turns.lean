import ReadThrough.Coordinator.Course
import ReadThrough.Proofs.Keys
import ReadThrough.Proofs.Writes

/-! The coordinator turn by turn. A run is a list of steps, each at its moment and in any order; every
step is a chain of a few kinds of turn, whatever it answers and wherever it fails. What holds of every
turn holds of every run. -/
namespace ReadThrough.Coordinator
open Relation
variable {τ : Type}

/-- What may happen to a coordinator. What changes nothing is left out; dropping several keys,
superseding all refreshes by themselves and cancelling them are several steps. -/
inductive Step (τ : Type) where
  | fetch (caller : String) (raw : Value) (r : Request τ)
  | leave (caller : String)
  | begin (task : Nat)
  | advance (task : Nat) (a : Attempt)
  | get (raw : Value)
  | set (raw data : Value) (o : Options τ)
  | bust (raw : Value)
  | clear
  | mutated (tags : List Tag)
  | mutatedEntity (kind : String) (id : Option Value)
  | mutatedKeys (matching : String → Bool)
  | mutatedVersion (current : Option String)
  | schedule (key supplier : String) (ttl : Option τ) (tags : Except Failure (List Tag))
      (version : Option String) (endpoint : String)
  | markStale (key : String)
  | clearQueue
  | supersede (keys : List String) (tags : List Tag)
  | supersedeVersions (current : Option String)
  | forget (key : String)
  | onLine (x : Op (Line τ) Unit)
  | metered (x : Op (Meter τ) Unit)

inductive Aside (may : Store.Piece τ → Prop) (c : Coordinator τ) : Coordinator τ → Prop where
  | line (b : Board τ) (m : Meter τ) :
      Aside may c { c with board := b, store := { c.store with meter := m } }
  | store {s : Store τ} (changed : c.store.Change may s) : Aside may c { c with store := s }
  | due (now : τ) (key : String) : Aside may c (c.markStale now key)
  | undue (key : String) : Aside may c (c.undue key)
  | queueCleared : Aside may c c.clearQueue

/-- Which tasks may be opened and which carried on, whose waiting may change, and what may happen to
the store. -/
structure Permit (τ : Type) where
  opens : Task τ → Prop
  carries : Nat → Prop
  calls : String → Prop
  stores : Store.Piece τ → Prop

inductive Turn (permit : Permit τ) (c : Coordinator τ) : Coordinator τ → Prop where
  | aside {c' : Coordinator τ} (turned : c.Aside permit.stores c') : Turn permit c c'
  | fetchOpened {t : Task τ} {caller : String} (free : c.slots.get? t.key = none)
      (fetches : t.purpose = .fetch) (current : t.superseded = false) (opens : permit.opens t)
      (calls : permit.calls caller) :
      Turn permit c { c with tasks := c.tasks.put c.nextTask t, nextTask := c.nextTask + 1,
                             slots := c.slots.put t.key c.nextTask,
                             waiting := c.waiting.put caller c.nextTask }
  | fetchJoined {key caller : String} {n : Nat} (flies : c.slots.get? key = some n)
      (calls : permit.calls caller) :
      Turn permit c { c with waiting := c.waiting.put caller n }
  | refreshOpened {t : Task τ} (free : c.isRefreshing t.key = false)
      (refreshes : t.purpose = .refresh) (current : t.superseded = false) (opens : permit.opens t) :
      Turn permit c { c with tasks := c.tasks.put c.nextTask t, nextTask := c.nextTask + 1,
                             refreshing := c.refreshing.put t.key c.nextTask }
  | fetchDetached (key : String) : Turn permit c (c.detachFetch key)
  | refreshDetached (key : String) : Turn permit c (c.detachRefresh key)
  | kept {n : Nat} (p : Pursuit) (carries : permit.carries n) : Turn permit c (c.keepPursuit n p)
  | fetchEnded {n : Nat} {t : Task τ} (r : Except Fault Value) (found : c.tasks.get? n = some t)
      (fetches : t.purpose = .fetch) (carries : permit.carries n) :
      Turn permit c (c.endFetch n t r).2
  | refreshEnded {n : Nat} {t : Task τ} (found : c.tasks.get? n = some t)
      (refreshes : t.purpose = .refresh) (carries : permit.carries n) :
      Turn permit c (c.endRefresh n t).2
  | forgotten (key : String) : Turn permit c (c.forget key)
  | left {caller : String} (calls : permit.calls caller) : Turn permit c (c.leave caller).2

theorem Aside.mono {may might : Store.Piece τ → Prop} (wider : ∀ p, may p → might p)
    {c c' : Coordinator τ} (turned : c.Aside may c') : c.Aside might c' := by
  cases turned with
  | line b m => exact .line b m
  | store changed => exact .store (changed.mono wider)
  | due now key => exact .due now key
  | undue key => exact .undue key
  | queueCleared => exact .queueCleared

theorem asideMono {may might : Store.Piece τ → Prop} (wider : ∀ p, may p → might p)
    {c c' : Coordinator τ} (chain : ReflTransGen (Aside may) c c') :
    ReflTransGen (Aside might) c c' := ReflTransGen.mono (fun _ _ => Aside.mono wider) _ _ chain

theorem asideFlights {may : Store.Piece τ → Prop} {c c' : Coordinator τ}
    (chain : ReflTransGen (Aside may) c c') :
    ∃ s b q, c' = { c with store := s, board := b, queue := q } := by
  induction chain with
  | refl => exact ⟨c.store,c.board,c.queue,rfl⟩
  | tail _ turned ih =>
    obtain ⟨s,b,q,rfl⟩ := ih
    cases turned with
    | due now key =>
      unfold markStale
      split
      · exact ⟨s,b,q,rfl⟩
      · exact ⟨_,_,_,rfl⟩
    | _ => exact ⟨_,_,_,rfl⟩

variable {permit : Permit τ} {may : Store.Piece τ → Prop}

theorem asideTurns {c c' : Coordinator τ} (chain : ReflTransGen (Aside permit.stores) c c') :
    ReflTransGen (Turn permit) c c' := ReflTransGen.mono (fun _ _ => .aside) _ _ chain

theorem inStoreChain {α : Type} {x : Op (Store τ) α} {c : Coordinator τ}
    (chain : ReflTransGen (Store.Change may) c.store (x c.store).2) :
    ReflTransGen (Aside may) c (inStore x c).2 := by
  change ReflTransGen (Aside may) c { c with store := (x c.store).2 }
  generalize (x c.store).2 = s at chain
  induction chain with
  | refl => exact .refl
  | tail _ changed ih => exact ih.tail (.store changed)

theorem meteredChain {α : Type} (x : Op (Meter τ) α) : Op.Moves (Aside may) (metered x) :=
  fun _ => inStoreChain (Store.meteredChain x _)

theorem onLineChain {α : Type} (x : Op (Line τ) α) : Op.Moves (Aside may) (onLine x) :=
  Op.movesWithin fun c l => .line l.board (l.meter.getD c.store.meter)

theorem onLineOk {α : Type} {x : Op (Line τ) α} {c c' : Coordinator τ} {r : Except Fault α}
    (done : onLine x c = (r,c')) : (∃ l, x ⟨c.board,some c.store.meter⟩ = (r,l)) ∧
      ∃ b m, c' = { c with board := b, store := { c.store with meter := m } } := by
  unfold onLine Op.within at done
  split at done
  rename_i result l ran
  cases done
  exact ⟨⟨l,ran⟩,_,_,rfl⟩

theorem inStoreOk {α : Type} {x : Op (Store τ) α} {c c' : Coordinator τ} {a : Except Fault α}
    (done : inStore x c = (a,c')) : ∃ s, x c.store = (a,s) ∧ c' = { c with store := s } := by
  unfold inStore Op.within at done
  split at done
  rename_i result s ran
  cases done
  exact ⟨s,ran,rfl⟩

theorem admitKeyPasses {raw : Value} {c : Coordinator τ} {key : String}
    (admitted : c.store.gate.admitKey raw = .ok key) :
    inStore (Store.admitKey raw) c = (.ok key,c) := by
  rw [inStore,Op.within,Store.admitKeyPasses admitted]

theorem admitKeyRefuses {raw : Value} {c : Coordinator τ} {why : Failure}
    (refused : c.store.gate.admitKey raw = .error why) :
    inStore (Store.admitKey raw) c = (.error (.of why),c) := by
  rw [inStore,Op.within,Store.admitKeyRefuses refused]

theorem chainStore {permit : Permit τ} {c c' : Coordinator τ} (chain : ReflTransGen (Turn permit) c c') :
    ReflTransGen (Store.Change permit.stores) c.store c'.store := by
  induction chain with
  | refl => exact .refl
  | tail _ turned ih =>
    cases turned with
    | aside turned =>
      cases turned with
      | line b m => exact ih.tail (.counted _ m)
      | store changed => exact ih.tail changed
      | due now key => unfold markStale; split <;> exact ih
      | _ => exact ih
    | fetchDetached key => unfold detachFetch; split <;> exact ih
    | refreshDetached key => unfold detachRefresh; split <;> exact ih
    | _ => exact ih

theorem chainGate {c c' : Coordinator τ} (chain : ReflTransGen (Turn permit) c c') :
    c'.store.gate = c.store.gate := Store.chainGate (chainStore chain)

/-! Detaching and scheduling. -/

theorem foldChain {σ κ : Type} {r : σ → σ → Prop} {f : σ → κ → σ} (small : ∀ s k, r s (f s k))
    (keys : List κ) (s : σ) : ReflTransGen r s (keys.foldl f s) := by
  induction keys generalizing s with
  | nil => exact .refl
  | cons k rest ih => exact .head (small s k) (ih (f s k))

theorem detachFetchesChain (c : Coordinator τ) (p : String → Task τ → Bool) :
    ReflTransGen (Turn permit) c (c.detachFetches p) :=
  foldChain (fun _ key => .fetchDetached key) (c.affected c.slots p) c

theorem foldKeeps {σ κ ρ : Type} {f : σ → κ → σ} {view : σ → ρ} (small : ∀ s k, view (f s k) = view s)
    (keys : List κ) (s : σ) : view (keys.foldl f s) = view s := by
  induction keys generalizing s with
  | nil => rfl
  | cons k rest ih => exact (ih (f s k)).trans (small s k)

theorem detachRefreshesTasks (c : Coordinator τ) (p : String → Task τ → Bool) :
    (c.detachRefreshes p).2.tasks = ((c.affected c.refreshing p).foldl detachRefresh c).tasks :=
  foldKeeps (f := undue) (fun _ _ => rfl) _ _

theorem detachRefreshLeaves (c : Coordinator τ) (key : String) :
    ∃ ts q, c.detachRefresh key = { c with tasks := ts, queue := q } := by
  unfold detachRefresh
  split <;> exact ⟨_,_,rfl⟩

theorem detachRefreshesMove {r : Coordinator τ → Coordinator τ → Prop}
    (detached : ∀ c key, r c (c.detachRefresh key)) (undue : ∀ c key, r c (c.undue key)) (c : Coordinator τ)
    (p : String → Task τ → Bool) : ReflTransGen r c (c.detachRefreshes p).2 :=
  (foldChain detached (c.affected c.refreshing p) c).trans (foldChain undue _ _)

theorem detachRefreshesLeave (c : Coordinator τ) (p : String → Task τ → Bool) :
    ∃ ts q, (c.detachRefreshes p).2 = { c with tasks := ts, queue := q } := by
  have chain := detachRefreshesMove (r := fun c c' => ∃ ts q, c' = { c with tasks := ts, queue := q })
    detachRefreshLeaves (fun _ _ => ⟨_,_,rfl⟩) c p
  generalize (c.detachRefreshes p).2 = c' at chain
  induction chain with
  | refl => exact ⟨_,_,rfl⟩
  | tail _ moved ih =>
    obtain ⟨ts,q,rfl⟩ := moved
    obtain ⟨ts',q',rfl⟩ := ih
    exact ⟨ts,q,rfl⟩

theorem detachRefreshesChain (c : Coordinator τ) (p : String → Task τ → Bool) :
    ReflTransGen (Turn permit) c (c.detachRefreshes p).2 :=
  detachRefreshesMove (fun _ key => .refreshDetached key) (fun _ key => .aside (.undue key)) c p

theorem detachedChain {α : Type} (p : String → Task τ → Bool)
    (q : Coordinator τ → String → Task τ → Bool) {x : Op (Store τ) α}
    (stored : Op.Moves (Store.Change permit.stores) x) : Op.Moves (Turn permit) (do
      Op.change (·.detachFetches p)
      Op.change (fun c => (c.detachRefreshes (q c)).2)
      inStore x) := by
  refine Op.movesBind (fun c => detachFetchesChain c p) fun _ => ?_
  refine Op.movesBind (fun c => detachRefreshesChain c (q c)) fun _ => ?_
  exact fun c => asideTurns (inStoreChain (stored c.store))

theorem scheduleChain {now : τ} {key supplier endpoint : String} {ttl : Option τ}
    {tags : Except Failure (List Tag)} {version : Option String}
    (opens : ∀ tags, permit.opens ⟨.refresh,key,supplier,ttl,tags,version,endpoint,false,none⟩)
    (c : Coordinator τ) :
    ReflTransGen (Turn permit) c (schedule now key supplier ttl tags version endpoint c).2 := by
  refine .head (.aside (.due now key)) ?_
  change ReflTransGen _ _ ((if (c.markStale now key).isRefreshing key then _ else _ : Op _ _) _).2
  split
  · exact .refl
  · rename_i free
    refine Op.chainBind (Op.movesLift _ _) fun tags c' given => ?_
    obtain ⟨-,rfl⟩ := Op.liftOk given
    exact .single (.refreshOpened (Bool.eq_false_iff.mpr free) rfl rfl (opens tags))

theorem shareChain {caller key : String} {r : Request τ} {tags : List Tag}
    (opens : permit.opens ⟨.fetch,key,r.supplier,r.ttl,tags,r.version,r.endpoint,false,none⟩)
    (calls : permit.calls caller) (c : Coordinator τ) :
    ReflTransGen (Turn permit) c (share caller key r tags c).2 := by
  unfold share
  refine Op.chainBind .refl fun c₁ c₂ read => ?_
  cases read
  cases found : c.slots.get? key with
  | some n => exact .single (.fetchJoined found calls)
  | none => exact .single (.fetchOpened found rfl rfl opens calls)

variable [Quantity τ]

section
variable (removes : ∀ p, Store.Removals p → permit.stores p) (now : τ)
include removes

theorem bustChain (raw : Value) : Op.Moves (Turn permit) (bust now raw) := by
  refine Op.movesBind (fun c => asideTurns (inStoreChain (Store.admitChain raw c.store))) fun key => ?_
  exact detachedChain _ _ fun s => Store.chainMono removes (Store.deleteChain now (.str key) s)

theorem mutatedChain (tags : List Tag) : Op.Moves (Turn permit) (mutated now tags) := by
  refine Op.movesBind Op.movesRead fun c => ?_
  exact detachedChain _ _ fun s => Store.chainMono removes (Store.sweepTagsChain now tags s)

theorem mutatedEntityChain (kind : String) (id : Option Value) :
    Op.Moves (Turn permit) (mutatedEntity now kind id) :=
  Op.movesBind (Op.movesLift _) fun _ => mutatedChain removes now _

theorem mutatedKeysChain (matching : String → Bool) :
    Op.Moves (Turn permit) (mutatedKeys now matching) :=
  detachedChain _ _ fun s => Store.chainMono removes (Store.sweepKeysChain now matching s)

theorem mutatedVersionChain (current : Option String) :
    Op.Moves (Turn permit) (mutatedVersion now current) :=
  detachedChain _ _ fun s => Store.chainMono removes (Store.sweepVersionChain now current s)

end

theorem bustStore (now : τ) (raw : Value) (c : Coordinator τ) :
    ReflTransGen (Store.Change Store.Removals) c.store (bust now raw c).2.store :=
  chainStore (@bustChain τ ⟨fun _ => False,fun _ => False,fun _ => False,Store.Removals⟩ _
    (fun _ removal => removal) now raw c)

theorem clearChain (empties : permit.stores .emptied) (now : τ) :
    Op.Moves (Turn permit) (clear now) := by
  refine Op.movesBind (fun c => detachFetchesChain c _) fun _ => ?_
  refine Op.movesBind (fun c => ?_) fun _ c => ?_
  · exact (detachRefreshesChain c fun _ _ => true).tail (.aside .queueCleared)
  · exact asideTurns (inStoreChain (.head (.emptied empties) (Store.clearAfter now c.store)))

/-! Reading through. -/

theorem readStaleOk {now : τ} {raw : Value} {c c' : Coordinator τ} {l : Lookup τ}
    (done : readStale now raw c = (.ok (some l),c')) : c.store.gate.admitKey raw = .ok l.key ∧
      c.store.entries.get? l.key = some l.entry := by
  obtain ⟨found,c₁,first,rest⟩ := Op.bindOk done
  obtain ⟨s,read,rfl⟩ := inStoreOk first
  cases found with
  | none => cases rest
  | some l' =>
    have same : l' = l := by
      dsimp only at rest
      split at rest <;> cases rest <;> rfl
    exact Store.getStaleOk (same ▸ read)

theorem readStaleChain (now : τ) (raw : Value) : Op.Moves (Aside may) (readStale now raw) := by
  refine Op.movesBind (fun c => inStoreChain (Store.getStaleChain now raw c.store)) fun found => ?_
  cases found with
  | none => exact Op.movesPure _
  | some l =>
    dsimp only
    split
    · exact Op.movesBind (Op.movesChange fun _ => .due now l.key) fun _ => Op.movesPure _
    · exact Op.movesPure _

inductive Asks (c : Coordinator τ) (r : Request τ) (key : String) : Task τ → Prop where
  | fetch (tags : List Tag) :
      Asks c r key ⟨.fetch,key,r.supplier,r.ttl,tags,r.version,r.endpoint,false,none⟩
  | refresh {e : Entry τ} (tags : List Tag) (stored : c.store.entries.get? key = some e) :
      Asks c r key ⟨.refresh,key,r.supplier,some (r.ttl.getD e.ttl),tags,
        r.version.orElse (fun _ => e.version),r.endpoint,false,none⟩

omit [Quantity τ] in
theorem Asks.before {c c' : Coordinator τ} (chain : ReflTransGen (Store.Change Store.Removals) c.store c'.store)
    {r : Request τ} {key : String} {t : Task τ} (asks : c'.Asks r key t) : c.Asks r key t := by
  cases asks with
  | fetch tags => exact .fetch tags
  | refresh tags stored =>
    exact .refresh tags ((Store.chainEntries chain stored).resolve_right fun written => written)

section
variable {now : τ} {caller key : String} {r : Request τ} {tags : Option (List Tag)} {c : Coordinator τ}
variable (opens : ∀ t, c.Asks r key t → permit.opens t) (calls : permit.calls caller)
include opens calls

theorem lookUpTolerantChain (admitted : c.store.gate.admitKey (.str key) = .ok key) :
    ReflTransGen (Turn permit) c (lookUpTolerant now caller key r tags c).2 := by
  refine Op.chainBind (asideTurns (readStaleChain now _ c)) fun found c₁ read => ?_
  cases found with
  | none => exact shareChain (opens _ (.fetch _)) calls c₁
  | some l =>
    obtain ⟨admitted',stored⟩ := readStaleOk read
    have same : l.key = key := Except.ok.inj (admitted'.symm.trans admitted)
    rw [same] at stored
    dsimp only
    split
    · rw [serveStale,same]
      exact Op.movesBind (scheduleChain fun tags => opens _ (.refresh tags stored))
        (fun _ => Op.movesPure _) c₁
    · exact .refl

theorem lookUpFreshChain :
    Op.Moves (Turn permit) (lookUpFresh now caller key r tags) := by
  refine Op.movesBind (fun c => asideTurns (inStoreChain (Store.getEntryChain now _ c.store))) ?_
  have missed : Op.Moves (Turn permit) (do
      metered (Meter.recordMiss key)
      share caller key r (tags.getD [])) :=
    Op.movesBind (fun c => asideTurns (meteredChain _ c)) fun _ =>
      shareChain (opens _ (.fetch _)) calls
  intro found
  cases found with
  | none => exact missed
  | some e =>
    dsimp only
    split
    · exact missed
    · exact Op.movesBind (fun c => asideTurns (meteredChain _ c)) fun _ => Op.movesPure _

theorem lookUpChain (admitted : c.store.gate.admitKey (.str key) = .ok key) :
    ReflTransGen (Turn permit) c ((do
      if r.useCache then
        if (← Op.read).toleratesStale then lookUpTolerant now caller key r tags
        else lookUpFresh now caller key r tags
      else
        metered (Meter.recordMiss key)
        share caller key r (tags.getD []) : Op (Coordinator τ) Answer) c).2 := by
  split
  · refine Op.chainBind .refl fun c₁ c₂ read => ?_
    cases read
    split
    · exact lookUpTolerantChain opens calls admitted
    · exact lookUpFreshChain opens calls c
  · exact Op.movesBind (fun c => asideTurns (meteredChain _ c))
      (fun _ => shareChain (opens _ (.fetch _)) calls) c

omit opens calls [Quantity τ] in
theorem requestTagsCases (r : Request τ) (c : Coordinator τ) :
    (∃ why f, r.tags = some (.error why) ∧ requestTags r c = (.error f,c)) ∨
      ∃ tags, requestTags r c = (.ok tags,c) := by
  unfold requestTags
  cases r.tags with
  | none => exact .inr ⟨none,rfl⟩
  | some tags =>
    cases tags with
    | error why => exact .inl ⟨why,_,rfl,rfl⟩
    | ok tags => exact .inr ⟨some tags,rfl⟩

theorem fetchAfter {raw : Value} (admitted : c.store.gate.admitKey raw = .ok key) :
    (fetch now caller raw r c).2 = c ∧ (∃ why, r.tags = some (.error why)) ∨
      ReflTransGen (Turn permit) (if r.bustCache then (bust now (.str key) c).2 else c)
        (fetch now caller raw r c).2 := by
  have again := (Key.sanitizeAgain admitted).2
  rw [fetch,Op.bind_ok (admitKeyPasses admitted)]
  rcases requestTagsCases r c with ⟨why,f,given,failed⟩ | ⟨tags,passed⟩
  · rw [Op.bind_error failed]
    exact .inl ⟨rfl,why,given⟩
  refine .inr ?_
  rw [Op.bind_ok passed]
  dsimp only
  split
  · have chain := bustStore now (.str key) c
    cases busted : bust now (.str key) c with
    | mk result c₁ =>
      rw [busted] at chain
      cases result with
      | error f => rw [Op.bind_error busted]
      | ok removed =>
        rw [Op.bind_ok busted]
        refine lookUpChain (fun t asks => opens t (asks.before chain)) calls ?_
        exact (Store.chainGate chain).symm ▸ again
  · exact lookUpChain opens calls again

end

end ReadThrough.Coordinator
