import ReadThrough.Rehearsal

/-! Rehearsals of a whole coordinator. Beside its fetches and refreshes there are those who wait for
it to close: until every refresh has ended, the ones started meanwhile included. -/
namespace ReadThrough.Rehearsal

structure Closer where
  refreshes : List Nat
  cancelled : Bool
  deriving DecidableEq, Repr

structure Cache (τ : Type) where
  coordinator : Coordinator τ
  closers : Assoc String Closer

variable {τ : Type} [Quantity τ]

namespace Cache

omit [Quantity τ] in
/-- Between two steps of a rehearsal every refresh that has ended is forgotten. -/
def settled (c : Coordinator τ) : Coordinator τ := c.lingering.keys.foldl Coordinator.forget c

def host : Host (Cache τ) τ where
  begin now task c :=
    let (r, coordinator) := c.coordinator.begin now task
    (r, { c with coordinator := settled coordinator })
  advance now task a c :=
    let (r, coordinator) := c.coordinator.advance now task a
    (r, { c with coordinator := settled coordinator })
  resume task c :=
    let (r, coordinator) := c.coordinator.resume task
    (r, { c with coordinator })

omit [Quantity τ] in
def inside {α : Type} (x : Op (Coordinator τ) α) : Op (Cache τ) α :=
  Op.within (·.coordinator) (fun k c => { c with coordinator := k }) x

omit [Quantity τ] in
def unfinished (c : Cache τ) : List Nat := c.coordinator.refreshing.values

end Cache

omit [Quantity τ] in
def releaseClosers (r : Rehearsal (Cache τ) τ) : Rehearsal (Cache τ) τ :=
  let pending := r.host.unfinished
  let step (acc : List (String × Closer) × List (String × Except Fault Value))
      (e : String × Closer) : List (String × Closer) × List (String × Except Fault Value) :=
    let (kept, done) := acc
    if e.2.refreshes.any pending.contains then (kept ++ [e], done)
    else if e.2.cancelled then (kept, done ++ [(e.1, .error (.of .cancelled))])
    else if pending.isEmpty then (kept, done ++ [(e.1, .ok .null)])
    else (kept ++ [(e.1, { e.2 with refreshes := pending })], done)
  let (kept, done) := r.host.closers.entries.foldl step ([], [])
  { r with host := { r.host with closers := ⟨kept⟩ }, done := r.done ++ done }

def settleCache (r : Rehearsal (Cache τ) τ) : Rehearsal (Cache τ) τ :=
  releaseClosers (settle Cache.host patience r)

def fetch (caller : String) (raw : Value) (request : Request τ) (r : Rehearsal (Cache τ) τ) :
    Rehearsal (Cache τ) τ :=
  match r.perform (Cache.inside (Coordinator.fetch r.now caller raw request)) with
  | (.error f, r) => { r with done := r.done ++ [(caller, .error f)] }
  | (.ok (.served v refresh), r) =>
    let r := { r with done := r.done ++ [(caller, .ok v)] }
    match refresh with
    | some task => r.queue task
    | none => r
  | (.ok (.waits task isNew), r) => if isNew then r.queue task else r

def schedule (key supplier : String) (ttl : Option τ) (tags : Except Failure (List Tag))
    (version : Option String) (endpoint : String) (r : Rehearsal (Cache τ) τ) :
    Except Fault Bool × Rehearsal (Cache τ) τ :=
  match r.perform (Cache.inside
      (Coordinator.schedule r.now key supplier ttl tags version endpoint)) with
  | (.error f, r) => (.error f, r)
  | (.ok (some task), r) => (.ok true, r.queue task)
  | (.ok none, r) => (.ok false, r)

def interrupt (tasks : List Nat) (r : Rehearsal (Cache τ) τ) : Rehearsal (Cache τ) τ :=
  tasks.foldl (fun r task => endAttempt Cache.host task .cancelled r) r

def close (id : String) (cancel : Bool) (r : Rehearsal (Cache τ) τ) : Rehearsal (Cache τ) τ :=
  let pending := r.host.unfinished
  let r := if cancel then interrupt pending r else r
  { r with host := { r.host with closers := r.host.closers.put id ⟨pending, false⟩ } }

def cancel (id : String) (r : Rehearsal (Cache τ) τ) : Bool × Rehearsal (Cache τ) τ :=
  match r.host.closers.get? id with
  | some closer =>
    let closers := r.host.closers.put id { closer with cancelled := true }
    let pending := closer.refreshes.filter r.host.unfinished.contains
    (true, interrupt pending { r with host := { r.host with closers } })
  | none =>
    let (waiting, coordinator) := r.host.coordinator.leave id
    let r := { r with host := { r.host with coordinator } }
    if waiting then (true, { r with done := r.done ++ [(id, .error (.of .cancelled))] })
    else (false, r)

end ReadThrough.Rehearsal
