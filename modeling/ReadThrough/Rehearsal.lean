import ReadThrough.Coordinator.Course

/-! Rehearsals: tasks run against scripted calls on a clock of their own. An attempt of a call picks
its outcome when it starts, waits until the gate of its call is open, then as long as its outcome
says, and ends. What can run runs in the order in which it became able to; a timer fires once the
clock has reached it. The clock moves only when it is moved, and through pauses between attempts. -/
namespace ReadThrough

structure Outcome (τ : Type) where
  delay : Option τ
  ending : Attempt
  deriving Repr

structure Script (τ : Type) where
  outcomes : List (Outcome τ)
  held : Bool
  started : Nat
  deriving Repr

structure Host (σ τ : Type) where
  begin : τ → Nat → σ → Report τ × σ
  advance : τ → Nat → Attempt → σ → Report τ × σ
  resume : Nat → σ → Report τ × σ

inductive Job (τ : Type) where
  | begin (task : Nat)
  | proceed (task serial : Nat) (outcome : Outcome τ)
  deriving Repr

structure Timer (τ : Type) where
  deadline : τ
  order : Nat
  task : Nat
  serial : Nat
  ending : Attempt
  deriving Repr

structure Gated (τ : Type) where
  call : String
  task : Nat
  serial : Nat
  outcome : Outcome τ
  deriving Repr

/-- `live` holds the serial number of the running attempt of each task; whatever belongs to another
attempt is void. -/
structure Rehearsal (σ τ : Type) where
  now : τ
  host : σ
  limit : Option τ
  scripts : Assoc String (Script τ)
  ready : List (Job τ)
  gated : List (Gated τ)
  timers : List (Timer τ)
  live : Assoc Nat Nat
  serial : Nat
  delays : List τ
  done : List (String × Except Fault Value)

namespace Script
variable {τ : Type}

def outcome (s : Script τ) (n : Nat) : Outcome τ :=
  match s.outcomes[n]? with
  | some o => o
  | none => s.outcomes.getLast?.getD ⟨none, .returned .null⟩

end Script

namespace Rehearsal
variable {σ τ : Type} [Quantity τ]

def create (now : τ) (host : σ) (limit : Option τ) (scripts : Assoc String (Script τ)) :
    Rehearsal σ τ :=
  { now, host, limit, scripts, ready := [], gated := [], timers := [], live := .empty, serial := 0,
    delays := [], done := [] }

omit [Quantity τ] in
def isLive (r : Rehearsal σ τ) (task serial : Nat) : Bool := r.live.get? task == some serial

omit [Quantity τ] in
def addTimer (r : Rehearsal σ τ) (deadline : τ) (task serial : Nat) (ending : Attempt) :
    Rehearsal σ τ :=
  { r with timers := r.timers ++ [⟨deadline, r.serial, task, serial, ending⟩],
           serial := r.serial + 1 }

omit [Quantity τ] in
def pick (r : Rehearsal σ τ) (call : String) : (Outcome τ × Bool) × Rehearsal σ τ :=
  match r.scripts.get? call with
  | none => ((⟨none, .returned .null⟩, false), r)
  | some s =>
    ((s.outcome s.started, s.held),
      { r with scripts := r.scripts.put call { s with started := s.started + 1 } })

def hasTime (r : Rehearsal σ τ) : Bool :=
  match r.limit with
  | some t => decide (Quantity.ofInt 0 < t)
  | none => true

inductive Standing (τ : Type) where
  | ended (a : Attempt)
  | waiting

def start (r : Rehearsal σ τ) (task : Nat) (call : String) : Standing τ × Rehearsal σ τ :=
  if r.hasTime then
    let ((outcome, held), r) := r.pick call
    let serial := r.serial
    let r := { r with live := r.live.put task serial, serial := serial + 1 }
    let r := match r.limit with
      | some t => r.addTimer (r.now + t) task serial .timedOut
      | none => r
    if held then
      (.waiting, { r with gated := r.gated ++ [⟨call, task, serial, outcome⟩] })
    else
      match outcome.delay with
      | some d => (.waiting, r.addTimer (r.now + d) task serial outcome.ending)
      | none => (.ended outcome.ending, r)
  else (.ended .timedOut, r)

def follow (h : Host σ τ) : (fuel : Nat) → Nat → Report τ → Rehearsal σ τ → Rehearsal σ τ
  | 0, _, _, r => r
  | fuel + 1, task, report, r =>
    match report with
    | .finished results => { r with done := r.done ++ results, live := r.live.erase task }
    | .resting d =>
      let r := { r with now := r.now + d, delays := r.delays ++ [d] }
      let (next, host) := h.resume task r.host
      follow h fuel task next { r with host }
    | .attempting call =>
      match r.start task call with
      | (.waiting, r) => r
      | (.ended a, r) =>
        let (next, host) := h.advance r.now task a r.host
        follow h fuel task next { r with host, live := r.live.erase task }

def patience : Nat := 10000000

def endAttempt (h : Host σ τ) (task : Nat) (a : Attempt) (r : Rehearsal σ τ) : Rehearsal σ τ :=
  let (next, host) := h.advance r.now task a r.host
  follow h patience task next { r with host, live := r.live.erase task }

def runJob (h : Host σ τ) (r : Rehearsal σ τ) : Job τ → Rehearsal σ τ
  | .begin task =>
    let (next, host) := h.begin r.now task r.host
    follow h patience task next { r with host }
  | .proceed task serial outcome =>
    if r.isLive task serial then
      match outcome.delay with
      | some d => r.addTimer (r.now + d) task serial outcome.ending
      | none => endAttempt h task outcome.ending r
    else r

def earliest : List (Timer τ) → Option (Timer τ)
  | [] => none
  | t :: rest => some (rest.foldl (fun best t =>
      if t.deadline < best.deadline then t else best) t)

def fire (h : Host σ τ) (r : Rehearsal σ τ) (t : Timer τ) : Rehearsal σ τ :=
  let r := { r with timers := r.timers.filter (fun u => u.order != t.order) }
  if r.isLive t.task t.serial then endAttempt h t.task t.ending r else r

def settle (h : Host σ τ) : (fuel : Nat) → Rehearsal σ τ → Rehearsal σ τ
  | 0, r => r
  | fuel + 1, r =>
    match r.ready with
    | job :: rest => settle h fuel (runJob h { r with ready := rest } job)
    | [] =>
      match earliest r.timers with
      | none => r
      | some t => if t.deadline ≤ r.now then settle h fuel (fire h r t) else r

def settleAll (h : Host σ τ) : (fuel : Nat) → Rehearsal σ τ → Rehearsal σ τ
  | 0, r => r
  | fuel + 1, r =>
    let r := settle h patience r
    match earliest r.timers with
    | none => r
    | some t =>
      let stale := !r.isLive t.task t.serial
      let now := if stale then r.now else Quantity.greatest r.now t.deadline
      settleAll h fuel (fire h { r with now } t)

omit [Quantity τ] in
def queue (r : Rehearsal σ τ) (task : Nat) : Rehearsal σ τ :=
  { r with ready := r.ready ++ [.begin task] }

def advanceClock (r : Rehearsal σ τ) (amount : τ) : Rehearsal σ τ :=
  { r with now := r.now + amount }

omit [Quantity τ] in
def setGate (r : Rehearsal σ τ) (call : String) (held : Bool) : Rehearsal σ τ :=
  { r with scripts := r.scripts.adjust call (fun s => { s with held }) }

omit [Quantity τ] in
def release (r : Rehearsal σ τ) (call : String) : Rehearsal σ τ :=
  let r := r.setGate call false
  let (freed, kept) := r.gated.partition (·.call == call)
  { r with gated := kept,
           ready := r.ready ++ freed.map (fun g => .proceed g.task g.serial g.outcome) }

omit [Quantity τ] in
def perform {α : Type} (x : Op σ α) (r : Rehearsal σ τ) : Except Fault α × Rehearsal σ τ :=
  match x r.host with
  | (a, host) => (a, { r with host })

omit [Quantity τ] in
def taken (r : Rehearsal σ τ) :
    (List (String × Except Fault Value) × List τ) × Rehearsal σ τ :=
  ((r.done, r.delays), { r with done := [], delays := [] })

end Rehearsal

end ReadThrough
