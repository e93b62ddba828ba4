import ReadThrough.Proofs.Errands
import ReadThrough.Proofs.Purge
import ReadThrough.Proofs.Tally

/-! What the acts of a cache do to its store. The store is used by itself or through a coordinator, and either
way what happens to it is a trail of deeds: a record on its meter, a removal of entries, and calls of set. The
calls of set that an act makes are told apart, each with the store that it meets. -/
namespace ReadThrough
open Relation
variable {τ : Type}

namespace Meter
variable [Quantity τ]

structure Looking (r : Meter τ → Meter τ → Prop) : Prop where
  hit : ∀ key m, r m (recordHit key m).2
  staleHit : ∀ key m, r m (recordStaleHit key m).2
  miss : ∀ key m, r m (recordMiss key m).2

structure Working (r : Meter τ → Meter τ → Prop) : Prop where
  told : ∀ {e}, Line.Tells e → ∀ m, r m (report e m).2
  renewed : ∀ key success m, r m (recordRevalidation key success m).2

end Meter

theorem Op.bindState {σ α β γ : Type} {x : Op σ α} {f : α → Op σ β} {g : α → Op σ γ}
    (same : ∀ a s, (f a s).2 = (g a s).2) (s : σ) : ((x >>= f) s).2 = ((x >>= g) s).2 := by
  rw [Op.bind_apply,Op.bind_apply]
  rcases x s with ⟨e | a,s'⟩
  · rfl
  · exact same a s'

theorem Op.pureState {σ α β : Type} (x : Op σ α) (f : α → β) (s : σ) :
    ((x >>= fun a => Pure.pure (f a)) s).2 = (x s).2 := lastState (fun _ _ => rfl) x s

namespace Store

structure Call (τ : Type) where
  store : Store τ
  now : τ
  raw : Value
  data : Value
  options : Options τ

/-- What may happen to a store but for a call of set. -/
inductive Deed [Quantity τ] (r : Meter τ → Meter τ → Prop) (s : Store τ) : Store τ → Prop where
  | limited (l : Limiter τ) : Deed r s { s with limiter := l }
  | noted {m : Meter τ} (noted : r s.meter m) : Deed r s { s with meter := m }
  | removed (now : τ) (keys : List String) (reason : String) : Deed r s (removeMany now keys reason s).2
  | cleared (now : τ) : Deed r s (clear now s).2
  | evicted (now : τ) : Deed r s (evict now s).2

def Quiet [Quantity τ] (r : Meter τ → Meter τ → Prop) (s s' : Store τ) : Prop := ReflTransGen (Deed r) s s'

inductive Trail [Quantity τ] (r : Meter τ → Meter τ → Prop) (s : Store τ) : List (Call τ) → Store τ → Prop where
  | start : Trail r s [] s
  | deed {calls : List (Call τ)} {s₁ s₂ : Store τ} (trail : Trail r s calls s₁) (done : Deed r s₁ s₂) :
      Trail r s calls s₂
  | call {calls : List (Call τ)} {s₁ : Store τ} (trail : Trail r s calls s₁) (now : τ) (raw data : Value)
      (o : Options τ) : Trail r s (calls ++ [⟨s₁,now,raw,data,o⟩]) (set now raw data o s₁).2

variable [Quantity τ] {r : Meter τ → Meter τ → Prop} {s s₁ s₂ : Store τ} {calls later : List (Call τ)}

theorem Trail.trans (first : Trail r s calls s₁) (second : Trail r s₁ later s₂) : Trail r s (calls ++ later) s₂ := by
  induction second with
  | start => rwa [List.append_nil]
  | deed _ done ih => exact ih.deed done
  | call _ now raw data o ih =>
    rw [← List.append_assoc]
    exact ih.call now raw data o

theorem Quiet.trail (quiet : Quiet r s s₁) : Trail r s [] s₁ := by
  induction quiet with
  | refl => exact .start
  | tail _ done ih => exact ih.deed done

theorem notedQuiet (s : Store τ) {m : Meter τ} (noted : ReflTransGen r s.meter m) :
    Quiet r s { s with meter := m } := by
  induction noted with
  | refl => exact .refl
  | @tail m₁ m₂ _ step ih => exact ih.tail (@Deed.noted τ _ r { s with meter := m₁ } m₂ step)

/-! What the uses of a store by itself come to. -/

theorem meteredDeeds {α : Type} {x : Op (Meter τ) α} (records : ∀ m, r m (x m).2) :
    Op.Moves (Deed r) (metered x) := Op.movesSmall fun s => .noted (records s.meter)

theorem accessDeeds (now : τ) (raw : Value) : Op.Moves (Deed r) (accessKey now raw) := by
  intro s
  obtain ⟨l,after⟩ := accessAfter now raw s
  rw [after]
  exact .single (.limited l)

theorem deleteRemoves {raw : Value} {key : String} (now : τ) (admitted : s.gate.admitKey raw = .ok key) :
    (delete now raw s).2 = (removeMany now [key] "delete" s).2 := by
  rw [delete,Op.bind_ok (admitKeyPasses admitted)]
  have one : s.removeAll [key] = (if (s.remove key).1 then 1 else 0,(s.remove key).2) := by
    simp only [removeAll]
    cases removed : s.remove key with
    | mk gone s' => cases gone <;> rfl
  have removed : Op.step (·.remove key) s = (.ok (s.remove key).1,(s.remove key).2) := rfl
  have swept : Op.step (·.removeAll [key]) s = (.ok (s.removeAll [key]).1,(s.removeAll [key]).2) := rfl
  rw [removeMany,Op.bind_ok removed,Op.bind_ok swept,one]
  cases (s.remove key).1 with
  | false => rfl
  | true =>
    simp only [if_true,Nat.one_pos]
    refine Op.bindState (fun _ s => ?_) _
    refine Op.bindState ?_ s
    exact fun _ _ => rfl

theorem deleteDeeds (now : τ) (raw : Value) : Op.Moves (Deed r) (delete now raw) := by
  intro s
  cases admitted : s.gate.admitKey raw with
  | error why => rw [delete,Op.bind_error (admitKeyRefuses admitted)]
  | ok key =>
    rw [deleteRemoves now admitted]
    exact .single (.removed now [key] "delete")

theorem removeManyDeeds (now : τ) (keys : List String) (reason : String) :
    Op.Moves (Deed r) (removeMany now keys reason) := fun _ => .single (.removed now keys reason)

section
variable (looking : Meter.Looking r)
include looking

theorem getDeeds (now : τ) (raw : Value) : Op.Moves (Deed r) (get now raw) := by
  refine Op.movesBind (accessDeeds now raw) fun key => Op.movesBind Op.movesRead fun s => ?_
  have missed : Op.Moves (Deed r) (metered (Meter.recordMiss (τ := τ) key) >>= fun _ => pure none) :=
    Op.movesBind (meteredDeeds (looking.miss key)) fun _ => Op.movesPure (none : Option Value)
  split
  · exact missed
  · split
    · exact missed
    · exact Op.movesBind (meteredDeeds (looking.hit key)) fun _ => Op.movesPure _

theorem getStaleDeeds (now : τ) (raw : Value) : Op.Moves (Deed r) (getStale now raw) := by
  refine Op.movesBind (accessDeeds now raw) fun key => Op.movesBind Op.movesRead fun s => ?_
  split
  · exact Op.movesBind (meteredDeeds (looking.miss key)) fun _ => Op.movesPure _
  · split
    · exact Op.movesBind (meteredDeeds (looking.staleHit key)) fun _ => Op.movesPure _
    · exact Op.movesBind (meteredDeeds (looking.hit key)) fun _ => Op.movesPure _

theorem getBatchDeeds (now : τ) (raws : List Value) : Op.Moves (Deed r) (getBatch now raws) := by
  induction raws with
  | nil => exact Op.movesPure _
  | cons raw rest ih =>
    exact Op.movesBind (getDeeds looking now raw) fun _ => Op.movesBind ih fun _ => Op.movesPure _

end

theorem getEntryDeeds (now : τ) (raw : Value) : Op.Moves (Deed r) (getEntry now raw) :=
  Op.movesBind (accessDeeds now raw) fun _ => Op.movesBind Op.movesRead fun _ => Op.movesPure _

theorem deleteAllDeeds (now : τ) (raws : List Value) : Op.Moves (Deed r) (deleteAll now raws) := by
  induction raws with
  | nil => exact Op.movesPure _
  | cons raw rest ih => exact Op.movesBind (deleteDeeds now raw) fun _ => Op.movesBind ih fun _ => Op.movesPure _

theorem sweepEntityDeeds (now : τ) (kind : String) (id : Option Value) :
    Op.Moves (Deed r) (sweepEntity now kind id) :=
  Op.movesBind (Op.movesLift _) fun _ => Op.movesBind Op.movesRead fun _ => removeManyDeeds now _ _

def batchCalls (s : Store τ) (now : τ) : List (Item τ) → List (Call τ)
  | [] => []
  | item :: rest =>
    match item.key, item.data with
    | some raw, some data => ⟨s,now,raw,data,item.options⟩ ::
      match set now raw data item.options s with
      | (.ok _, s') => batchCalls s' now rest
      | (.error _, _) => []
    | _, _ => []

theorem setBatchTrail (now : τ) (items : List (Item τ)) :
    Trail r s (batchCalls s now items) (setBatch now items s).2 := by
  induction items generalizing s with
  | nil => exact .start
  | cons item rest ih =>
    rw [setBatch,batchCalls]
    cases item.key with
    | none => exact .start
    | some raw =>
      cases item.data with
      | none => exact .start
      | some data =>
        have one : Trail r s [⟨s,now,raw,data,item.options⟩] (set now raw data item.options s).2 :=
          Trail.start.call now raw data item.options
        dsimp only
        rw [Op.bind_apply]
        rcases ran : set now raw data item.options s with ⟨f | key,s'⟩
        · rw [ran] at one
          exact one
        · rw [ran] at one
          dsimp only
          rw [Op.pureState]
          exact one.trans (@ih s')

def Errand.Looks : Errand τ → Prop
  | .get _ | .getStale _ | .getBatch _ => True
  | _ => False

def callsOf (s : Store τ) (now : τ) : Errand τ → List (Call τ)
  | .set raw data o => [⟨s,now,raw,data,o⟩]
  | .setBatch items => s.batchCalls now items
  | _ => []

theorem stepTrail (s : Store τ) (now : τ) {a : Errand τ} (looking : a.Looks → Meter.Looking r) :
    Trail r s (s.callsOf now a) (s.step now a) := by
  cases a with
  | get raw => exact Quiet.trail (getDeeds (looking trivial) now raw s)
  | getEntry raw => exact Quiet.trail (getEntryDeeds now raw s)
  | getStale raw => exact Quiet.trail (getStaleDeeds (looking trivial) now raw s)
  | has raw =>
    have still : Op.Moves (Deed r) (has (τ := τ) raw) :=
      Op.movesBind (fun _ => .refl) fun _ => Op.movesBind Op.movesRead fun _ => Op.movesPure _
    exact Quiet.trail (still s)
  | getBatch raws => exact Quiet.trail (getBatchDeeds (looking trivial) now raws s)
  | set raw data o => exact Trail.start.call now raw data o
  | setBatch items => exact setBatchTrail now items
  | delete raw => exact Quiet.trail (deleteDeeds now raw s)
  | deleteAll raws => exact Quiet.trail (deleteAllDeeds now raws s)
  | removeMany keys reason => exact Trail.start.deed (.removed now keys reason)
  | clear => exact Trail.start.deed (.cleared now)
  | evict => exact Trail.start.deed (.evicted now)
  | sweepTag tag => exact Trail.start.deed (.removed now _ _)
  | sweepKeys matching => exact Trail.start.deed (.removed now _ _)
  | sweepVersion current => exact Trail.start.deed (.removed now _ _)
  | sweepTags tags => exact Trail.start.deed (.removed now _ _)
  | sweepEntity kind id => exact Quiet.trail (sweepEntityDeeds now kind id s)

end Store

/-! The line to the ledger. -/

def Line.Noted (r : Meter τ → Meter τ → Prop) (l l' : Line τ) : Prop :=
  l'.meter = l.meter ∨ ∃ m m', l.meter = some m ∧ l'.meter = some m' ∧ r m m'

theorem Line.notedKeeps [Quantity τ] {r : Meter τ → Meter τ → Prop} (working : Meter.Working r) :
    Line.Keeps (Line.Noted r) := by
  refine ⟨fun _ _ => .inl rfl,fun tells => Op.movesSmall fun l => ?_⟩
  unfold Noted metered
  cases attached : l.meter with
  | none => exact .inl attached
  | some m => exact .inr ⟨m,_,rfl,rfl,working.told tells m⟩

namespace Coordinator
variable {r : Meter τ → Meter τ → Prop}

theorem onLineNoted {α : Type} {x : Op (Line τ) α} (noted : Op.Moves (Line.Noted r) x) (c : Coordinator τ) :
    ∃ b m, (onLine x c).2 = { c with board := b, store := { c.store with meter := m } } ∧
      ReflTransGen r c.store.meter m := by
  have reached {l : Line τ} (chain : ReflTransGen (Line.Noted r) ⟨c.board,some c.store.meter⟩ l) :
      ∃ m, l.meter = some m ∧ ReflTransGen r c.store.meter m := by
    induction chain with
    | refl => exact ⟨_,rfl,.refl⟩
    | tail _ step ih =>
      obtain ⟨m,attached,noted⟩ := ih
      rcases step with same | ⟨m₁,m₂,before,after,step⟩
      · exact ⟨m,same.trans attached,noted⟩
      · cases attached.symm.trans before
        exact ⟨m₂,after,noted.tail step⟩
  obtain ⟨m,attached,chain⟩ := reached (noted ⟨c.board,some c.store.meter⟩)
  refine ⟨(x ⟨c.board,some c.store.meter⟩).2.board,m,?_,chain⟩
  unfold onLine Op.within
  dsimp only
  rw [attached]
  rfl

/-- The cache in use: its store by itself or by way of its invalidations, and the coordinator. -/
inductive Use (τ : Type) where
  | errand (a : Store.Errand τ)
  | step (s : Step τ)

def Use.Within (r : Meter τ → Meter τ → Prop) : Use τ → Prop
  | .step (.onLine x) => Op.Moves (Line.Noted r) x
  | .step (.metered x) => Op.Moves r x
  | _ => True

def Use.Looks : Use τ → Prop
  | .errand a => a.Looks
  | .step (.fetch _ _ _) | .step (.get _) => True
  | _ => False

variable [Quantity τ]

def use (c : Coordinator τ) (now : τ) : Use τ → Coordinator τ
  | .errand (.getStale raw) => (readStale now raw c).2
  | .errand a => { c with store := c.store.step now a }
  | .step s => c.step now s

def used (c : Coordinator τ) (run : List (τ × Use τ)) : Coordinator τ := run.foldl (fun c m => c.use m.1 m.2) c

def passes (c : Coordinator τ) (key : String) (data : Value) : Bool :=
  !c.refusesSensitive || (c.store.gate.enforce key data).isOk

def resultCalls (c : Coordinator τ) (now : τ) (t : Task τ) (data : Value) : List (Store.Call τ) :=
  if !t.superseded && c.passes t.key data then
    [⟨c.store,now,.str t.key,data,⟨t.ttl,.ok t.tags,t.version,none⟩⟩]
  else []

def stepCalls (c : Coordinator τ) (now : τ) : Step τ → List (Store.Call τ)
  | .set raw data o =>
    match c.store.gate.admitKey raw with
    | .ok key => if c.passes key data then [⟨c.store,now,raw,data,o⟩] else []
    | .error _ => []
  | .advance n a =>
    match c.tasks.get? n with
    | none => []
    | some t =>
      match t.pursuit with
      | none => []
      | some p =>
        match onLine (Line.advance c.service now p a) c with
        | (.ok (.done data), c') => c'.resultCalls now t data
        | _ => []
  | _ => []

def calls (c : Coordinator τ) (now : τ) : Use τ → List (Store.Call τ)
  | .errand a => c.store.callsOf now a
  | .step s => c.stepCalls now s

def runCalls (c : Coordinator τ) : List (τ × Use τ) → List (Store.Call τ)
  | [] => []
  | (now,u) :: rest => c.calls now u ++ (c.use now u).runCalls rest

/-! What a coordinator does to its store beside the calls of set. -/

def Quietly (r : Meter τ → Meter τ → Prop) (c c' : Coordinator τ) : Prop := Store.Quiet r c.store c'.store

theorem quietly {c c' : Coordinator τ} (chain : ReflTransGen (Quietly r) c c') :
    Store.Quiet r c.store c'.store := by
  induction chain with
  | refl => exact .refl
  | tail _ quiet ih => exact ih.trans quiet

theorem stillQuiet {c c' : Coordinator τ} (same : c'.store = c.store) : Quietly r c c' := by
  unfold Quietly
  rw [same]
  exact .refl

theorem inStoreQuiet {α : Type} {x : Op (Store τ) α} (moves : Op.Moves (Store.Deed r) x) :
    Op.Moves (Quietly r) (inStore x) := Op.movesSmall fun c => moves c.store

theorem meteredQuiet {α : Type} {x : Op (Meter τ) α} (records : ∀ m, r m (x m).2) :
    Op.Moves (Quietly r) (metered x) := inStoreQuiet (Store.meteredDeeds records)

theorem detachedQuiet {α : Type} (p : String → Task τ → Bool) (q : Coordinator τ → String → Task τ → Bool)
    {x : Op (Store τ) α} (moves : Op.Moves (Store.Deed r) x) : Op.Moves (Quietly r) (do
      Op.change (·.detachFetches p)
      Op.change (fun c => (c.detachRefreshes (q c)).2)
      inStore x) := by
  intro c
  have still : Quietly r c ((c.detachFetches p).detachRefreshes (q (c.detachFetches p))).2 :=
    stillQuiet (detachedStore c p _)
  exact .head still (inStoreQuiet moves _)

theorem admitQuiet (raw : Value) : Op.Moves (Quietly r) (inStore (Store.admitKey raw)) :=
  inStoreQuiet fun _ => .refl

theorem bustQuiet (now : τ) (raw : Value) : Op.Moves (Quietly r) (bust now raw) :=
  Op.movesBind (admitQuiet raw) fun _ => detachedQuiet _ _ (Store.deleteDeeds now _)

theorem clearQuiet (now : τ) : Op.Moves (Quietly r) (clear now) := by
  refine Op.movesBind (Op.movesChange fun c => stillQuiet (fetchesStore c _)) fun _ => ?_
  refine Op.movesBind (Op.movesChange fun c => stillQuiet (refreshesStore c _)) fun _ => ?_
  exact inStoreQuiet fun _ => .single (.cleared now)

theorem mutatedQuiet (now : τ) (tags : List Tag) : Op.Moves (Quietly r) (mutated now tags) :=
  Op.movesBind Op.movesRead fun _ => detachedQuiet _ _
    (Op.movesBind Op.movesRead fun _ => Store.removeManyDeeds now _ _)

theorem mutatedEntityQuiet (now : τ) (kind : String) (id : Option Value) :
    Op.Moves (Quietly r) (mutatedEntity now kind id) :=
  Op.movesBind (Op.movesLift _) fun _ => mutatedQuiet now _

theorem mutatedKeysQuiet (now : τ) (matching : String → Bool) : Op.Moves (Quietly r) (mutatedKeys now matching) :=
  detachedQuiet _ _ (Op.movesBind Op.movesRead fun _ => Store.removeManyDeeds now _ _)

theorem mutatedVersionQuiet (now : τ) (current : Option String) :
    Op.Moves (Quietly r) (mutatedVersion now current) :=
  detachedQuiet _ _ (Op.movesBind Op.movesRead fun _ => Store.removeManyDeeds now _ _)

omit [Quantity τ] in
theorem markStaleStore (c : Coordinator τ) (now : τ) (key : String) : (c.markStale now key).store = c.store := by
  unfold markStale
  split <;> rfl

theorem scheduleQuiet (now : τ) (key supplier : String) (ttl : Option τ) (tags : Except Failure (List Tag))
    (version : Option String) (endpoint : String) :
    Op.Moves (Quietly r) (schedule now key supplier ttl tags version endpoint) := by
  refine Op.movesBind (Op.movesChange fun c => stillQuiet (markStaleStore c now key)) fun _ => ?_
  refine Op.movesBind Op.movesRead fun c => ?_
  split
  · exact Op.movesPure _
  · refine Op.movesBind (Op.movesLift _) fun tags => Op.movesBind (Op.movesStep fun _ => stillQuiet rfl) fun _ => ?_
    exact Op.movesBind (Op.movesChange fun _ => stillQuiet rfl) fun _ => Op.movesPure _

theorem shareQuiet (caller key : String) (q : Request τ) (tags : List Tag) :
    Op.Moves (Quietly r) (share caller key q tags) := by
  refine Op.movesBind Op.movesRead fun c => ?_
  split
  · exact Op.movesBind (Op.movesChange fun _ => stillQuiet rfl) fun _ => Op.movesPure _
  · refine Op.movesBind (Op.movesStep fun _ => stillQuiet rfl) fun _ => ?_
    exact Op.movesBind (Op.movesChange fun _ => stillQuiet rfl) fun _ => Op.movesPure _

section
variable (looking : Meter.Looking r)
include looking

theorem readStaleQuiet (now : τ) (raw : Value) : Op.Moves (Quietly r) (readStale now raw) := by
  refine Op.movesBind (inStoreQuiet (Store.getStaleDeeds looking now raw)) fun found => ?_
  cases found with
  | none => exact Op.movesPure _
  | some l =>
    dsimp only
    split
    · exact Op.movesBind (Op.movesChange fun c => stillQuiet (markStaleStore c now l.key)) fun _ => Op.movesPure _
    · exact Op.movesPure _

theorem missQuiet (caller key : String) (q : Request τ) (tags : List Tag) : Op.Moves (Quietly r) (do
    metered (Meter.recordMiss key)
    share caller key q tags) :=
  Op.movesBind (meteredQuiet (looking.miss key)) fun _ => shareQuiet caller key q tags

theorem lookUpQuiet (now : τ) (caller key : String) (q : Request τ) (tags : Option (List Tag)) :
    Op.Moves (Quietly r) (do
      if q.useCache then
        if (← Op.read).toleratesStale then lookUpTolerant now caller key q tags
        else lookUpFresh now caller key q tags
      else
        metered (Meter.recordMiss key)
        share caller key q (tags.getD []) : Op (Coordinator τ) Answer) := by
  split
  · refine Op.movesBind Op.movesRead fun c => ?_
    split
    · refine Op.movesBind (readStaleQuiet looking now _) fun found => ?_
      cases found with
      | none => exact shareQuiet caller key q _
      | some l =>
        dsimp only
        split
        · exact Op.movesBind (scheduleQuiet now _ _ _ _ _ _) fun _ => Op.movesPure _
        · exact Op.movesPure _
    · refine Op.movesBind (inStoreQuiet (Store.getEntryDeeds now _)) fun found => ?_
      cases found with
      | none => exact missQuiet looking caller key q _
      | some e =>
        dsimp only
        split
        · exact missQuiet looking caller key q _
        · exact Op.movesBind (meteredQuiet (looking.hit key)) fun _ => Op.movesPure _
  · exact missQuiet looking caller key q _

theorem fetchQuiet (now : τ) (caller : String) (raw : Value) (q : Request τ) :
    Op.Moves (Quietly r) (fetch now caller raw q) := by
  refine Op.movesBind (admitQuiet raw) fun key => Op.movesBind (fun c => ?_) fun tags => ?_
  · rcases requestTagsCases q c with ⟨why,f,-,failed⟩ | ⟨tags,passed⟩
    · rw [failed]
    · rw [passed]
  · dsimp only
    split
    · exact Op.movesBind (bustQuiet now _) fun _ => lookUpQuiet looking now caller key q tags
    · exact lookUpQuiet looking now caller key q tags

end

/-! The end of a task. -/

theorem writeResultTrail {c : Coordinator τ} {now : τ} {t : Task τ} {data : Value} (current : t.superseded = false) :
    Store.Trail r c.store (c.resultCalls now t data) (writeResult now t data c).2.store := by
  have stored : Store.Trail r c.store [⟨c.store,now,.str t.key,data,⟨t.ttl,.ok t.tags,t.version,none⟩⟩]
      ((inStore (Store.set now (.str t.key) data ⟨t.ttl,.ok t.tags,t.version,none⟩) >>= fun _ =>
        pure ()) c).2.store := by
    rw [Op.pureState]
    exact Store.Trail.start.call now (.str t.key) data ⟨t.ttl,.ok t.tags,t.version,none⟩
  rw [writeResult,Op.bind_ok (show Op.read c = (.ok c,c) from rfl),resultCalls,passes,current]
  cases strict : c.refusesSensitive with
  | false => exact stored
  | true =>
    cases scanned : c.store.gate.enforce t.key data with
    | error why => exact .start
    | ok u => exact stored

section
variable (working : Meter.Working r)
include working

theorem concludeTrail (c : Coordinator τ) (now : τ) (n : Nat) (t : Task τ) (result : Except Fault Value) :
    Store.Trail r c.store (match result with | .ok data => c.resultCalls now t data | .error _ => [])
      (c.conclude now n t result).2.store := by
  have renewed (success : Bool) (c : Coordinator τ) :
      Store.Quiet r c.store (metered (Meter.recordRevalidation t.key success) c).2.store :=
    quietly (meteredQuiet (working.renewed t.key success) c)
  unfold conclude
  cases t.purpose with
  | fetch =>
    cases result with
    | error e => exact .start
    | ok data =>
      change Store.Trail r c.store (c.resultCalls now t data) (completeFetch now t data c).2.store
      cases dropped : t.superseded with
      | true =>
        rw [completeFetch,if_pos dropped,resultCalls,dropped]
        exact .start
      | false =>
        rw [completeFetch,if_neg (by simp [dropped]),Op.pureState]
        exact writeResultTrail dropped
  | refresh =>
    cases result with
    | error e =>
      refine Store.Quiet.trail ?_
      change Store.Quiet r c.store (failRefresh t e c).2.store
      unfold failRefresh
      split
      · exact .refl
      · exact renewed false c
    | ok data =>
      change Store.Trail r c.store (c.resultCalls now t data) (completeRefresh now t data c).2.store
      cases dropped : t.superseded with
      | true =>
        rw [completeRefresh,if_pos dropped,resultCalls,dropped]
        exact .start
      | false =>
        have written := @writeResultTrail τ r _ c now t data dropped
        rw [← List.append_nil (c.resultCalls now t data),completeRefresh,if_neg (by simp [dropped]),Op.bind_apply,
          Op.attempt]
        rcases ran : writeResult now t data c with ⟨f | u,c'⟩
        · rw [ran] at written
          exact written.trans (renewed false c').trail
        · rw [ran] at written
          exact written.trans (renewed true { c' with queue := c'.queue.erase t.key }).trail

theorem beginTrail (c : Coordinator τ) (now : τ) (n : Nat) : Store.Trail r c.store [] (c.begin now n).2.store := by
  unfold begin
  cases c.tasks.get? n with
  | none => exact .start
  | some t =>
    dsimp only
    obtain ⟨b,m,after,noted⟩ :=
      onLineNoted (Line.beginKeeps (Line.notedKeeps working) c.service now t.endpoint) c
    have told := (Store.notedQuiet c.store noted).trail
    rcases started : onLine (Line.begin c.service now t.endpoint) c with ⟨f | p,c'⟩
    · rw [started] at after
      dsimp only at after
      subst after
      exact told.trans
        (concludeTrail working { c with board := b, store := { c.store with meter := m } } now n t (.error f))
    · rw [started] at after
      dsimp only at after
      subst after
      exact told

theorem advanceTrail (c : Coordinator τ) (now : τ) (n : Nat) (a : Attempt) :
    Store.Trail r c.store (c.stepCalls now (.advance n a)) (c.advance now n a).2.store := by
  unfold advance
  simp only [stepCalls]
  cases c.tasks.get? n with
  | none => exact .start
  | some t =>
    dsimp only
    cases t.pursuit with
    | none => exact concludeTrail working c now n t (.error (.of .cancelled))
    | some p =>
      dsimp only
      obtain ⟨b,m,after,noted⟩ := onLineNoted (Line.advanceKeeps (Line.notedKeeps working) c.service now p a) c
      have told := (Store.notedQuiet c.store noted).trail
      rcases ran : onLine (Line.advance c.service now p a) c with ⟨f | data | ⟨delay,next⟩,c'⟩ <;>
        (rw [ran] at after; dsimp only at after; subst after)
      · exact told.trans
          (concludeTrail working { c with board := b, store := { c.store with meter := m } } now n t (.error f))
      · exact told.trans
          (concludeTrail working { c with board := b, store := { c.store with meter := m } } now n t (.ok data))
      · exact told

end

theorem setTrail (c : Coordinator τ) (now : τ) (raw data : Value) (o : Options τ) :
    Store.Trail r c.store (c.stepCalls now (.set raw data o)) (set now raw data o c).2.store := by
  have stored : Store.Trail r c.store [⟨c.store,now,raw,data,o⟩] (inStore (Store.set now raw data o) c).2.store :=
    Store.Trail.start.call now raw data o
  rw [set,Op.bind_ok (show Op.read c = (.ok c,c) from rfl),stepCalls]
  unfold passes
  cases admitted : c.store.gate.admitKey raw with
  | error why =>
    have refused : (Store.set now raw data o c.store).2 = c.store := by
      have unknown : Store.accessKey now raw c.store = (.error (.of why),c.store) :=
        Op.bind_error (Store.admitKeyRefuses admitted)
      rw [Store.set,Op.bind_error unknown]
    cases c.refusesSensitive with
    | false =>
      change Store.Trail r c.store [] (Store.set now raw data o c.store).2
      rw [refused]
      exact .start
    | true =>
      rw [if_pos rfl,Op.bind_error (admitKeyRefuses admitted)]
      exact .start
  | ok key =>
    dsimp only
    cases strict : c.refusesSensitive with
    | false => exact stored
    | true =>
      rw [if_pos rfl,Op.bind_ok (admitKeyPasses admitted)]
      cases scanned : c.store.gate.enforce key data with
      | error why => exact .start
      | ok u => exact stored

theorem readStaleStore (now : τ) (raw : Value) (c : Coordinator τ) :
    (readStale now raw c).2.store = (Store.getStale now raw c.store).2 := by
  have after : (inStore (Store.getStale now raw) c).2.store = (Store.getStale now raw c.store).2 := rfl
  rw [readStale,Op.bind_apply]
  generalize inStore (Store.getStale now raw) c = read at *
  rcases read with ⟨f | none | l,c'⟩
  · exact after
  · exact after
  · dsimp only
    split
    · exact (markStaleStore c' now l.key).trans after
    · exact after

theorem errandStore (c : Coordinator τ) (now : τ) (a : Store.Errand τ) :
    (c.use now (.errand a)).store = c.store.step now a := by
  cases a with
  | getStale raw => exact readStaleStore now raw c
  | _ => rfl

theorem useTrail (working : Meter.Working r) (c : Coordinator τ) (now : τ) {u : Use τ}
    (looking : u.Looks → Meter.Looking r) (within : u.Within r) :
    Store.Trail r c.store (c.calls now u) (c.use now u).store := by
  cases u with
  | errand a =>
    rw [errandStore]
    exact Store.stepTrail c.store now looking
  | step s =>
    cases s with
    | fetch caller raw q => exact Store.Quiet.trail (quietly (fetchQuiet (looking trivial) now caller raw q c))
    | leave caller => exact .start
    | begin n => exact beginTrail working c now n
    | advance n a => exact advanceTrail working c now n a
    | get raw => exact Store.Quiet.trail (Store.getDeeds (looking trivial) now raw c.store)
    | set raw data o => exact setTrail c now raw data o
    | bust raw => exact Store.Quiet.trail (quietly (bustQuiet now raw c))
    | clear => exact Store.Quiet.trail (quietly (clearQuiet now c))
    | mutated tags => exact Store.Quiet.trail (quietly (mutatedQuiet now tags c))
    | mutatedEntity kind id => exact Store.Quiet.trail (quietly (mutatedEntityQuiet now kind id c))
    | mutatedKeys matching => exact Store.Quiet.trail (quietly (mutatedKeysQuiet now matching c))
    | mutatedVersion current => exact Store.Quiet.trail (quietly (mutatedVersionQuiet now current c))
    | schedule key supplier ttl tags version endpoint =>
      exact Store.Quiet.trail (quietly (scheduleQuiet now key supplier ttl tags version endpoint c))
    | markStale key => exact Store.Quiet.trail (stillQuiet (markStaleStore c now key))
    | clearQueue => exact .start
    | supersede keys tags => exact Store.Quiet.trail (stillQuiet (refreshesStore c _))
    | supersedeVersions current => exact Store.Quiet.trail (stillQuiet (refreshesStore c _))
    | forget key => exact .start
    | onLine x =>
      obtain ⟨b,m,after,noted⟩ := onLineNoted within c
      have told := (Store.notedQuiet c.store noted).trail
      change Store.Trail r c.store [] (onLine x c).2.store
      rw [after]
      exact told
    | metered x => exact (Store.notedQuiet c.store (within c.store.meter)).trail

theorem usedTrail (working : Meter.Working r) (looking : Meter.Looking r) {run : List (τ × Use τ)}
    (c : Coordinator τ) (within : ∀ m ∈ run, m.2.Within r) :
    Store.Trail r c.store (c.runCalls run) (c.used run).store := by
  induction run generalizing c with
  | nil => exact .start
  | cons m rest ih =>
    have first := useTrail working c m.1 (fun _ => looking) (within m List.mem_cons_self)
    exact first.trans (ih (c.use m.1 m.2) fun m' later => within m' (List.mem_cons_of_mem _ later))

/-! Fetches and refreshes are the coordinator's alone. -/

theorem errandAside (c : Coordinator τ) (now : τ) (a : Store.Errand τ) :
    ∃ s b q, c.use now (.errand a) = { c with store := s, board := b, queue := q } := by
  cases a with
  | getStale raw =>
    have chain : ReflTransGen (Aside Store.Still) c (readStale now raw c).2 := readStaleChain now raw c
    exact asideFlights chain
  | _ => exact ⟨_,c.board,c.queue,rfl⟩

theorem useOnward (c : Coordinator τ) (now : τ) (u : Use τ) : c.Onward (c.use now u) := by
  cases u with
  | errand a =>
    obtain ⟨s,b,q,after⟩ := errandAside c now a
    rw [after]
    exact ⟨Nat.le_refl _,fun _ t _ found => ⟨t,found,.refl t⟩⟩
  | step s => exact chainOnward (c.stepTurns now s)

theorem usedOnward (c : Coordinator τ) (run : List (τ × Use τ)) : c.Onward (c.used run) := by
  induction run generalizing c with
  | nil => exact .refl c
  | cons m rest ih => exact (useOnward c m.1 m.2).trans (ih _)

theorem useOrderly {c : Coordinator τ} (orderly : c.Orderly) (now : τ) (u : Use τ) : (c.use now u).Orderly := by
  cases u with
  | errand a =>
    obtain ⟨s,b,q,after⟩ := errandAside c now a
    rw [after]
    exact orderly.beside s b q
  | step s => exact chainOrderly (c.stepTurns now s) orderly

theorem usedOrderly {c : Coordinator τ} (orderly : c.Orderly) (run : List (τ × Use τ)) : (c.used run).Orderly := by
  induction run generalizing c with
  | nil => exact orderly
  | cons m rest ih => exact ih (useOrderly orderly m.1 m.2)

end Coordinator

end ReadThrough
