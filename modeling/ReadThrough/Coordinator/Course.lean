import ReadThrough.Coordinator

/-! The course of a task: it begins, its attempts end one after the other with pauses in between, and
it ends. A fetch delivers its result to every caller that still waits; a refresh tells only the
counters, and lingers until it is forgotten. -/
namespace ReadThrough

inductive Report (τ : Type) where
  | attempting (supplier : String)
  | resting (delay : τ)
  | finished (results : List (String × Except Fault Value))

namespace Coordinator
variable {τ : Type} [Quantity τ]

omit [Quantity τ] in
def endFetch (c : Coordinator τ) (task : Nat) (t : Task τ) (result : Except Fault Value) :
    Report τ × Coordinator τ :=
  let mine := c.waiting.entries.filter (fun e => e.2 == task)
  let slots := if c.slots.get? t.key = some task then c.slots.erase t.key else c.slots
  (.finished (mine.map (fun e => (e.1, result))),
    { c with tasks := c.tasks.erase task, slots,
             waiting := ⟨c.waiting.entries.filter (fun e => e.2 != task)⟩ })

omit [Quantity τ] in
def endRefresh (c : Coordinator τ) (task : Nat) (t : Task τ) : Report τ × Coordinator τ :=
  let refreshing :=
    if c.refreshing.get? t.key = some task then c.refreshing.erase t.key else c.refreshing
  (.finished [],
    { c with tasks := c.tasks.erase task, refreshing, lingering := c.lingering.put t.key t })

def writeResult (now : τ) (t : Task τ) (data : Value) : Op (Coordinator τ) Unit := do
  let c ← Op.read
  if c.refusesSensitive then Op.liftFailure (c.store.gate.enforce t.key data)
  let _ ← inStore (Store.set now (.str t.key) data ⟨t.ttl, .ok t.tags, t.version, none⟩)

def completeFetch (now : τ) (t : Task τ) (data : Value) : Op (Coordinator τ) Value := do
  if t.superseded then pure data
  else
    writeResult now t data
    pure data

def completeRefresh (now : τ) (t : Task τ) (data : Value) : Op (Coordinator τ) Unit := do
  if t.superseded then pure ()
  else
    match ← Op.attempt (writeResult now t data) with
    | .ok () =>
      Op.change (fun c => { c with queue := c.queue.erase t.key })
      metered (Meter.recordRevalidation t.key true)
    | .error _ => metered (Meter.recordRevalidation t.key false)

def failRefresh (t : Task τ) (error : Fault) : Op (Coordinator τ) Unit :=
  if error.isCancelled then pure () else metered (Meter.recordRevalidation t.key false)

def conclude (c : Coordinator τ) (now : τ) (task : Nat) (t : Task τ)
    (result : Except Fault Value) : Report τ × Coordinator τ :=
  match t.purpose, result with
  | .fetch, .error e => c.endFetch task t (.error e)
  | .fetch, .ok data =>
    match completeFetch now t data c with
    | (r, c) => c.endFetch task t r
  | .refresh, .error e => (failRefresh t e c).2.endRefresh task t
  | .refresh, .ok data => (completeRefresh now t data c).2.endRefresh task t

omit [Quantity τ] in
def keepPursuit (c : Coordinator τ) (task : Nat) (p : Pursuit) : Coordinator τ :=
  { c with tasks := c.tasks.adjust task (fun t => { t with pursuit := some p }) }

def begin (c : Coordinator τ) (now : τ) (task : Nat) : Report τ × Coordinator τ :=
  match c.tasks.get? task with
  | none => (.finished [], c)
  | some t =>
    match onLine (Line.begin c.service now t.endpoint) c with
    | (.ok p, c) => (.attempting t.supplier, c.keepPursuit task p)
    | (.error e, c) => c.conclude now task t (.error e)

def advance (c : Coordinator τ) (now : τ) (task : Nat) (a : Attempt) :
    Report τ × Coordinator τ :=
  match c.tasks.get? task with
  | none => (.finished [], c)
  | some t =>
    match t.pursuit with
    | none => c.conclude now task t (.error (.of .cancelled))
    | some p =>
      match onLine (Line.advance c.service now p a) c with
      | (.ok (.done v), c) => c.conclude now task t (.ok v)
      | (.ok (.pause delay next), c) => (.resting delay, c.keepPursuit task next)
      | (.error e, c) => c.conclude now task t (.error e)

omit [Quantity τ] in
def resume (c : Coordinator τ) (task : Nat) : Report τ × Coordinator τ :=
  match c.tasks.get? task with
  | none => (.finished [], c)
  | some t => (.attempting t.supplier, c)

end Coordinator

end ReadThrough
