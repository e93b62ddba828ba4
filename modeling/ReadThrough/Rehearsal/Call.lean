import ReadThrough.Rehearsal

/-! Hosts for rehearsals of single parts: calls through a breaker, calls through the line with its
retries, and bare retries. -/
namespace ReadThrough.Rehearsal
variable {τ : Type} [Quantity τ]

structure Call where
  id : String
  supplier : String
  endpoint : String
  pursuit : Option Pursuit
  deriving Repr

structure Exchange (τ : Type) where
  line : Line τ
  service : Service τ
  calls : Assoc Nat Call
  next : Nat

namespace Exchange

omit [Quantity τ] in
def create (line : Line τ) (service : Service τ) : Exchange τ := ⟨line, service, .empty, 0⟩

omit [Quantity τ] in
def onLine {α : Type} (x : Op (Line τ) α) : Op (Exchange τ) α :=
  Op.within (·.line) (fun l e => { e with line := l }) x

omit [Quantity τ] in
def add (e : Exchange τ) (c : Call) : Nat × Exchange τ :=
  (e.next, { e with calls := e.calls.put e.next c, next := e.next + 1 })

omit [Quantity τ] in
def number? (e : Exchange τ) (id : String) : Option Nat :=
  (e.calls.entries.find? (·.2.id == id)).map (·.1)

omit [Quantity τ] in
def finish (e : Exchange τ) (task : Nat) (c : Call) (result : Except Fault Value) :
    Report τ × Exchange τ :=
  (.finished [(c.id, result)], { e with calls := e.calls.erase task })

def settleBare (now : τ) (endpoint : String) (a : Attempt) : Op (Line τ) Value :=
  match a with
  | .returned v => do
    Line.success endpoint
    pure v
  | .raised f => Line.endWith now endpoint f
  | .timedOut => Line.endWith now endpoint Fault.timeUp
  | .cancelled => Line.endWith now endpoint (.of .cancelled)

def beginBare (now : τ) (task : Nat) (e : Exchange τ) : Report τ × Exchange τ :=
  match e.calls.get? task with
  | none => (.finished [], e)
  | some c =>
    match onLine (do Line.touch c.endpoint; Line.enter now c.endpoint) e with
    | (.ok (), e) => (.attempting c.supplier, e)
    | (.error f, e) => e.finish task c (.error f)

def advanceBare (now : τ) (task : Nat) (a : Attempt) (e : Exchange τ) :
    Report τ × Exchange τ :=
  match e.calls.get? task with
  | none => (.finished [], e)
  | some c =>
    match onLine (settleBare now c.endpoint a) e with
    | (r, e) => e.finish task c r

def begin (now : τ) (task : Nat) (e : Exchange τ) : Report τ × Exchange τ :=
  match e.calls.get? task with
  | none => (.finished [], e)
  | some c =>
    match onLine (Line.begin e.service now c.endpoint) e with
    | (.ok p, e) =>
      (.attempting c.supplier, { e with calls := e.calls.put task { c with pursuit := some p } })
    | (.error f, e) => e.finish task c (.error f)

def advance (now : τ) (task : Nat) (a : Attempt) (e : Exchange τ) : Report τ × Exchange τ :=
  match e.calls.get? task with
  | none => (.finished [], e)
  | some c =>
    match c.pursuit with
    | none => e.finish task c (.error (.of .cancelled))
    | some p =>
      match onLine (Line.advance e.service now p a) e with
      | (.ok (.done v), e) => e.finish task c (.ok v)
      | (.ok (.pause delay next), e) =>
        (.resting delay, { e with calls := e.calls.put task { c with pursuit := some next } })
      | (.error f, e) => e.finish task c (.error f)

omit [Quantity τ] in
def resume (task : Nat) (e : Exchange τ) : Report τ × Exchange τ :=
  match e.calls.get? task with
  | none => (.finished [], e)
  | some c => (.attempting c.supplier, e)

def bare : Host (Exchange τ) τ := ⟨beginBare, advanceBare, resume⟩

def retried : Host (Exchange τ) τ := ⟨begin, advance, resume⟩

end Exchange

def startCall (h : Host (Exchange τ) τ) (id supplier endpoint : String)
    (r : Rehearsal (Exchange τ) τ) : Rehearsal (Exchange τ) τ :=
  let (task, host) := r.host.add ⟨id, supplier, endpoint, none⟩
  settle h patience ({ r with host }.queue task)

def cancelCall (h : Host (Exchange τ) τ) (id : String) (r : Rehearsal (Exchange τ) τ) :
    Bool × Rehearsal (Exchange τ) τ :=
  match r.host.number? id with
  | some task => (true, endAttempt h task .cancelled r)
  | none => (false, r)

structure Retries (τ : Type) where
  service : Service τ
  attempt : Nat
  retries : List (Nat × Fault × τ)

namespace Retries

def advance (_ : τ) (_ : Nat) (a : Attempt) (s : Retries τ) : Report τ × Retries τ :=
  let ended (r : Except Fault Value) : Report τ × Retries τ := (.finished [("", r)], s)
  let failed (raw : Fault) : Report τ × Retries τ :=
    match s.service.backoff.decide s.service.limit s.service.draw s.attempt raw with
    | .error why => ended (.error (.of why))
    | .ok (.giveUp error) => ended (.error error)
    | .ok (.again error delay) =>
      (.resting delay, { s with attempt := s.attempt + 1,
                                retries := s.retries ++ [(s.attempt + 1, error, delay)] })
  match a with
  | .returned v => ended (.ok v)
  | .cancelled => ended (.error (.of .cancelled))
  | .timedOut => failed Fault.timeUp
  | .raised raw => failed raw

def host (call : String) : Host (Retries τ) τ :=
  ⟨fun _ _ s => (.attempting call, s), advance, fun _ s => (.attempting call, s)⟩

end Retries

end ReadThrough.Rehearsal
