import ReadThrough.Store.Sweep
import ReadThrough.Line

/-! Read-through access to the ledger. A miss shares one fetch between all callers that ask for the
key; a stale hit is answered at once while a refresh runs behind it; an invalidation detaches the
fetches and refreshes it affects, so that their results are never written.

A fetch or refresh is a task with a number. It lives from its creation to its end, and only its end
writes to the store; what happens in between happens in other steps. -/
namespace ReadThrough

inductive Purpose where
  | fetch
  | refresh
  deriving DecidableEq, Repr

/-- An unfinished fetch or refresh. `supplier` names the function that was passed to obtain the
data. `pursuit` is where its call stands, once it was let through. -/
structure Task (τ : Type) where
  purpose : Purpose
  key : String
  supplier : String
  ttl : Option τ
  tags : List Tag
  version : Option String
  endpoint : String
  superseded : Bool
  pursuit : Option Pursuit
  deriving Repr

/-- `slots` holds for each key the fetch that a miss joins, `refreshing` the unfinished refresh of each
key, `lingering` the refreshes that have ended and are not forgotten yet, `queue` the stale keys with
the moments since when they are due, `waiting` the fetch that each caller waits for. -/
structure Coordinator (τ : Type) where
  store : Store τ
  board : Board τ
  service : Service τ
  toleratesStale : Bool
  refusesSensitive : Bool
  tasks : Assoc Nat (Task τ)
  slots : Assoc String Nat
  refreshing : Assoc String Nat
  lingering : Assoc String (Task τ)
  queue : Assoc String τ
  waiting : Assoc String Nat
  nextTask : Nat

/-- How to read a key through the cache. Tags that were not given are taken over from a stale
entry. -/
structure Request (τ : Type) where
  supplier : String
  ttl : Option τ
  tags : Option (Except Failure (List Tag))
  version : Option String
  useCache : Bool
  bustCache : Bool
  endpoint : String

/-- The immediate answer to a request: data, with the refresh it started, or the fetch to wait for
and whether that fetch is new. -/
inductive Answer where
  | served (data : Value) (refresh : Option Nat)
  | waits (task : Nat) (isNew : Bool)
  deriving Repr

namespace Coordinator
variable {τ : Type} [Quantity τ]

def create (store : Store τ) (rule : BreakerRule τ) (service : Service τ)
    (toleratesStale refusesSensitive : Bool) : Coordinator τ :=
  { store, board := .create rule, service, toleratesStale, refusesSensitive, tasks := .empty,
    slots := .empty, refreshing := .empty, lingering := .empty, queue := .empty, waiting := .empty,
    nextTask := 0 }

omit [Quantity τ] in
def inStore {α : Type} (x : Op (Store τ) α) : Op (Coordinator τ) α :=
  Op.within (·.store) (fun s c => { c with store := s }) x

omit [Quantity τ] in
def metered {α : Type} (x : Op (Meter τ) α) : Op (Coordinator τ) α := inStore (Store.metered x)

omit [Quantity τ] in
def onLine {α : Type} (x : Op (Line τ) α) : Op (Coordinator τ) α :=
  Op.within (fun c => ⟨c.board, some c.store.meter⟩)
    (fun l c => { c with board := l.board,
                         store := { c.store with meter := l.meter.getD c.store.meter } }) x

/-! Stale keys and refreshes. -/

omit [Quantity τ] in
def markStale (c : Coordinator τ) (now : τ) (key : String) : Coordinator τ :=
  if c.queue.has key then c else { c with queue := c.queue.put key now }

omit [Quantity τ] in
def clearQueue (c : Coordinator τ) : Coordinator τ := { c with queue := .empty }

omit [Quantity τ] in
def undue (c : Coordinator τ) (key : String) : Coordinator τ := { c with queue := c.queue.erase key }

/-! A refresh stays registered for its key a little longer than it runs: its end is heard of, and the
refresh forgotten, in a later step. -/

omit [Quantity τ] in
def isRefreshing (c : Coordinator τ) (key : String) : Bool :=
  c.refreshing.has key || c.lingering.has key

omit [Quantity τ] in
def refreshingKeys (c : Coordinator τ) : List String := c.refreshing.keys ++ c.lingering.keys

omit [Quantity τ] in
def refreshCount (c : Coordinator τ) : Nat := c.refreshing.size + c.lingering.size

omit [Quantity τ] in
def forget (c : Coordinator τ) (key : String) : Coordinator τ :=
  { c with lingering := c.lingering.erase key }

omit [Quantity τ] in
def addTask (c : Coordinator τ) (t : Task τ) : Nat × Coordinator τ :=
  (c.nextTask, { c with tasks := c.tasks.put c.nextTask t, nextTask := c.nextTask + 1 })

omit [Quantity τ] in
def schedule (now : τ) (key supplier : String) (ttl : Option τ)
    (tags : Except Failure (List Tag)) (version : Option String) (endpoint : String) :
    Op (Coordinator τ) (Option Nat) := do
  Op.change (·.markStale now key)
  let c ← Op.read
  if c.isRefreshing key then pure none
  else
    let tags ← Op.liftFailure tags
    let task ← Op.step (·.addTask
      ⟨.refresh, key, supplier, ttl, tags, version, endpoint, false, none⟩)
    Op.change (fun c => { c with refreshing := c.refreshing.put key task })
    pure (some task)

/-! Superseding: a superseded task keeps running, but what it brings is not written. -/

omit [Quantity τ] in
def supersedeTask (c : Coordinator τ) (task : Nat) : Coordinator τ :=
  { c with tasks := c.tasks.adjust task (fun t => { t with superseded := true }) }

omit [Quantity τ] in
def affected (c : Coordinator τ) (table : Assoc String Nat) (p : String → Task τ → Bool) :
    List String :=
  (table.entries.filter (fun e => ((c.tasks.get? e.2).map (p e.1)).getD false)).map (·.1)

omit [Quantity τ] in
def detachFetch (c : Coordinator τ) (key : String) : Coordinator τ :=
  match c.slots.get? key with
  | some task => { c.supersedeTask task with slots := c.slots.erase key }
  | none => c

omit [Quantity τ] in
def detachFetches (c : Coordinator τ) (p : String → Task τ → Bool) : Coordinator τ :=
  (c.affected c.slots p).foldl detachFetch c

omit [Quantity τ] in
def detachRefresh (c : Coordinator τ) (key : String) : Coordinator τ :=
  match c.refreshing.get? key with
  | some task => { c.supersedeTask task with queue := c.queue.erase key }
  | none => c

omit [Quantity τ] in
/-- The keys of lingering refreshes leave the queue with the others; what those brought is written or
dropped already. -/
def detachRefreshes (c : Coordinator τ) (p : String → Task τ → Bool) : Nat × Coordinator τ :=
  let running := c.affected c.refreshing p
  let ended := (c.lingering.entries.filter (fun e => p e.1 e.2)).map (·.1)
  (running.length + ended.length, ended.foldl undue (running.foldl detachRefresh c))

omit [Quantity τ] in
def supersede (c : Coordinator τ) (keys : List String) (tags : List Tag) :
    Nat × Coordinator τ :=
  c.detachRefreshes (fun key t => keys.contains key || t.tags.any tags.contains)

omit [Quantity τ] in
def writesOther (current : Option String) (t : Task τ) : Bool :=
  t.version.isSome && t.version != current

omit [Quantity τ] in
def supersedeVersions (c : Coordinator τ) (current : Option String) : Nat × Coordinator τ :=
  c.detachRefreshes (fun _ t => writesOther current t)

/-! Dropping what a write made stale. -/

def bust (now : τ) (raw : Value) : Op (Coordinator τ) Bool := do
  let key ← inStore (Store.admitKey raw)
  Op.change (·.detachFetches (fun k _ => k == key))
  Op.change (fun c => (c.supersede [key] []).2)
  inStore (Store.delete now (.str key))

def bustAll (now : τ) : List Value → Op (Coordinator τ) Nat
  | [] => pure 0
  | raw :: rest => do
    let removed ← bust now raw
    let others ← bustAll now rest
    pure (if removed then others + 1 else others)

def clear (now : τ) : Op (Coordinator τ) Nat := do
  Op.change (·.detachFetches (fun _ _ => true))
  Op.change (fun c => (c.detachRefreshes (fun _ _ => true)).2.clearQueue)
  inStore (Store.clear now)

/-- Drops every entry with one of the tags, and detaches the fetches and refreshes that carry one of
them or run for the key of such an entry. -/
def mutated (now : τ) (tags : List Tag) : Op (Coordinator τ) Nat := do
  let c ← Op.read
  let keys := c.store.keysForTags tags
  Op.change (·.detachFetches (fun k t => keys.contains k || t.tags.any tags.contains))
  Op.change (fun c => (c.supersede keys tags).2)
  inStore (Store.sweepTags now tags)

def mutatedEntity (now : τ) (kind : String) (id : Option Value) : Op (Coordinator τ) Nat := do
  let tags ← Op.liftFailure (Ledger.tagsForEntity kind id)
  mutated now (tags.map Tag.text)

def mutatedKeys (now : τ) (matching : String → Bool) : Op (Coordinator τ) Nat := do
  Op.change (·.detachFetches (fun k _ => matching k))
  Op.change (fun c => (c.supersede (c.refreshingKeys.filter matching) []).2)
  inStore (Store.sweepKeys now matching)

def mutatedVersion (now : τ) (current : Option String) : Op (Coordinator τ) Nat := do
  Op.change (·.detachFetches (fun _ t => writesOther current t))
  Op.change (fun c => (c.supersedeVersions current).2)
  inStore (Store.sweepVersion now current)

/-! Reading through. -/

def readStale (now : τ) (raw : Value) : Op (Coordinator τ) (Option (Lookup τ)) := do
  let found ← inStore (Store.getStale now raw)
  match found with
  | some l =>
    if l.stale then Op.change (·.markStale now l.key)
    pure (some l)
  | none => pure none

def share (caller key : String) (r : Request τ) (tags : List Tag) :
    Op (Coordinator τ) Answer := do
  let c ← Op.read
  match c.slots.get? key with
  | some task =>
    Op.change (fun c => { c with waiting := c.waiting.put caller task })
    pure (.waits task false)
  | none =>
    let task ← Op.step (·.addTask
      ⟨.fetch, key, r.supplier, r.ttl, tags, r.version, r.endpoint, false, none⟩)
    Op.change (fun c =>
      { c with slots := c.slots.put key task, waiting := c.waiting.put caller task })
    pure (.waits task true)

/-- Answers a stale hit and sees to its refresh. What the request leaves open is taken over from the
stale entry. -/
def serveStale (now : τ) (r : Request τ) (tags : Option (List Tag)) (l : Lookup τ) :
    Op (Coordinator τ) Answer := do
  let refresh ← schedule now l.key r.supplier (some (r.ttl.getD l.entry.ttl))
    (.ok (tags.getD l.entry.tags)) (r.version.orElse (fun _ => l.entry.version)) r.endpoint
  pure (.served l.entry.data refresh)

def lookUpTolerant (now : τ) (caller key : String) (r : Request τ) (tags : Option (List Tag)) :
    Op (Coordinator τ) Answer := do
  match ← readStale now (.str key) with
  | some l => if l.stale then serveStale now r tags l else pure (.served l.entry.data none)
  | none => share caller key r (tags.getD [])

def lookUpFresh (now : τ) (caller key : String) (r : Request τ) (tags : Option (List Tag)) :
    Op (Coordinator τ) Answer := do
  match ← inStore (Store.getEntry now (.str key)) with
  | some e =>
    if e.isExpired now then
      metered (Meter.recordMiss key)
      share caller key r (tags.getD [])
    else
      metered (Meter.recordHit key)
      pure (.served e.data none)
  | none =>
    metered (Meter.recordMiss key)
    share caller key r (tags.getD [])

def requestTags (r : Request τ) : Op (Coordinator τ) (Option (List Tag)) :=
  match r.tags with
  | none => pure none
  | some tags => do
    let tags ← Op.liftFailure tags
    pure (some tags)

def fetch (now : τ) (caller : String) (raw : Value) (r : Request τ) :
    Op (Coordinator τ) Answer := do
  let key ← inStore (Store.admitKey raw)
  let tags ← requestTags r
  if r.bustCache then
    let _ ← bust now (.str key)
  if r.useCache then
    if (← Op.read).toleratesStale then lookUpTolerant now caller key r tags
    else lookUpFresh now caller key r tags
  else
    metered (Meter.recordMiss key)
    share caller key r (tags.getD [])

def set (now : τ) (raw data : Value) (o : Options τ) : Op (Coordinator τ) String := do
  let c ← Op.read
  if c.refusesSensitive then
    let key ← inStore (Store.admitKey raw)
    Op.liftFailure (c.store.gate.enforce key data)
  inStore (Store.set now raw data o)

def shouldCache (raw data : Value) : Op (Coordinator τ) Verdict := do
  let key ← inStore (Store.admitKey raw)
  let c ← Op.read
  pure (c.store.gate.judge key data)

def leave (c : Coordinator τ) (caller : String) : Bool × Coordinator τ :=
  (c.waiting.has caller, { c with waiting := c.waiting.erase caller })

end Coordinator

end ReadThrough
