import ReadThrough.Proofs.Seen

/-! Traffic through the breakers of a line. Calls begin and end in any order, with or without retries, and
the breakers are read, told of outcomes, forced open and reset meanwhile. Whatever the line's meter makes of
it, a step changes the breaker of one endpoint, by a few kinds of change; while a probe is out, a call
through its endpoint is under way. -/
namespace ReadThrough
open Relation
variable {τ : Type} [Quantity τ]

theorem Op.leaves {σ α β : Type} {x : Op σ α} {f : α → Op σ β} {s : σ} {P : σ → Prop} (first : P (x s).2)
    (rest : ∀ a s', P s' → P (f a s').2) : P ((x >>= f) s).2 := by
  rw [Op.bind_apply]
  cases ran : x s with
  | mk result s₁ =>
    rw [ran] at first
    cases result with
    | error e => exact first
    | ok a => exact rest a s₁ first

theorem Meter.reportWilling (event : Event) {m : Meter τ} (willing : m.sink ≠ .refusing) :
    (report event m).2.sink ≠ .refusing := by
  unfold report
  cases kind : m.sink with
  | refusing => exact absurd kind willing
  | journal | silent => exact willing
  | exposition x =>
    dsimp only
    split <;> nofun

namespace Breaker

inductive Liberty where
  | enter
  | force
  | reset
  deriving DecidableEq, Repr

inductive Change (now : τ) (may : Liberty → Prop) (b : Breaker τ) : Breaker τ → Prop where
  | looked : Change now may b (b.look now).2
  | entered (allowed : may .enter) : Change now may b (b.enter now).2
  | succeeded : Change now may b b.succeed.2
  | forgiven : Change now may b b.forgive
  | failed : Change now may b (b.fail now).2
  | abandoned : Change now may b b.abandon
  | pruned : Change now may b (b.prune now)
  | forced (allowed : may .force) : Change now may b (b.forceOpen now).2
  | reset (allowed : may .reset) : Change now may b b.reset.2

variable {b b' : Breaker τ} {now : τ} {may might : Liberty → Prop}

theorem Change.mono (wider : ∀ l, may l → might l) (change : b.Change now may b') : b.Change now might b' := by
  cases change with
  | looked => exact .looked
  | entered allowed => exact .entered (wider _ allowed)
  | succeeded => exact .succeeded
  | forgiven => exact .forgiven
  | failed => exact .failed
  | abandoned => exact .abandoned
  | pruned => exact .pruned
  | forced allowed => exact .forced (wider _ allowed)
  | reset allowed => exact .reset (wider _ allowed)

omit [Quantity τ] in
theorem succeedProbing (b : Breaker τ) : b.succeed.2.probing = false := by
  simp only [succeed]
  split <;> simp

def Sane (b : Breaker τ) : Prop := b.probing = true → b.phase ≠ .closed

theorem Change.probing (change : b.Change now may b') (out : ¬ may .enter) (probing : b'.probing = true) :
    b.probing = true := by
  cases change with
  | looked => exact (b.lookKeeps now).1 ▸ probing
  | entered allowed => exact absurd allowed out
  | succeeded => cases (b.succeedProbing).symm.trans probing
  | failed => cases (b.heedProbing now .failed).symm.trans probing
  | abandoned => cases probing
  | forgiven | pruned => exact probing
  | forced allowed => simpa [forceOpen,trip] using probing
  | reset allowed => simp [Breaker.reset] at probing

theorem Change.sane (change : b.Change now may b') (sane : b.Sane) : b'.Sane := by
  intro probing
  cases change with
  | looked =>
    obtain ⟨same,-,-⟩ := b.lookKeeps now
    rcases b.lookState now with kept | ⟨-,turned⟩
    · rw [kept] at probing ⊢
      exact sane probing
    · rw [turned]
      exact Phase.noConfusion
  | entered allowed =>
    rcases b.enterState now with ⟨-,-,kept⟩ | ⟨-,halfOpen,-,raised⟩ | ⟨-,-,-,kept⟩
    · rw [kept] at probing ⊢
      exact sane probing
    · rw [raised]
      intro closed
      cases halfOpen.symm.trans closed
    · rw [kept] at probing ⊢
      exact sane probing
  | succeeded => cases (b.succeedProbing).symm.trans probing
  | failed => cases (b.heedProbing now .failed).symm.trans probing
  | abandoned => cases probing
  | forgiven | pruned => exact sane probing
  | forced allowed =>
    simp only [forceOpen,trip,moveToState]
    exact Phase.noConfusion
  | reset allowed => simp [Breaker.reset] at probing

theorem chainProbing (chain : ReflTransGen (Change now may) b b') (out : ¬ may .enter)
    (probing : b'.probing = true) : b.probing = true := by
  induction chain with
  | refl => exact probing
  | tail _ change ih => exact ih (change.probing out probing)

theorem chainSane (chain : ReflTransGen (Change now may) b b') (sane : b.Sane) : b'.Sane := by
  induction chain with
  | refl => exact sane
  | tail _ change ih => exact change.sane ih

end Breaker

namespace Line
variable {now : τ} {may : Breaker.Liberty → Prop} {endpoint : String}

structure Stirs (now : τ) (may : Breaker.Liberty → Prop) (endpoint : String) (l l' : Line τ) : Prop where
  others : ∀ e, e ≠ endpoint → l'.board.breaker e = l.board.breaker e
  own : ReflTransGen (Breaker.Change now may) (l.board.breaker endpoint) (l'.board.breaker endpoint)
  quiet : l.Quiet → l'.Quiet

theorem Stirs.same {l l' : Line τ} (same : ∀ e, l'.board.breaker e = l.board.breaker e)
    (quiet : l.Quiet → l'.Quiet) : Stirs now may endpoint l l' :=
  ⟨fun e _ => same e,by rw [same],quiet⟩

theorem Stirs.trans {l l' l'' : Line τ} (first : Stirs now may endpoint l l')
    (later : Stirs now may endpoint l' l'') : Stirs now may endpoint l l'' :=
  ⟨fun e other => (later.others e other).trans (first.others e other),first.own.trans later.own,
    fun quiet => later.quiet (first.quiet quiet)⟩

theorem chainStirs {l l' : Line τ} (chain : ReflTransGen (Stirs now may endpoint) l l') :
    Stirs now may endpoint l l' := by
  induction chain with
  | refl => exact .same (fun _ => rfl) id
  | tail _ stirs ih => exact ih.trans stirs

theorem Stirs.at {l l' : Line τ} {might : Breaker.Liberty → Prop} (stirs : Stirs now may endpoint l l')
    (e : String) (wider : endpoint = e → ∀ l, may l → might l) :
    ReflTransGen (Breaker.Change now might) (l.board.breaker e) (l'.board.breaker e) := by
  by_cases here : e = endpoint
  · subst here
    exact ReflTransGen.mono (fun _ _ => Breaker.Change.mono (wider rfl)) _ _ stirs.own
  · rw [stirs.others e here]

theorem Stirs.probing {l l' : Line τ} (stirs : Stirs now may endpoint l l') (out : ¬ may .enter) (e : String)
    (probing : (l'.board.breaker e).probing = true) : (l.board.breaker e).probing = true :=
  Breaker.chainProbing (stirs.at e fun _ _ => id) out probing

theorem turnStirs {α : Type} {f : Breaker τ → α × Breaker τ}
    (small : ∀ b, Breaker.Change now may b (f b).2) :
    Op.Moves (Stirs now may endpoint) (turn endpoint f) := by
  refine Op.movesSmall fun l => ⟨fun e other => ?_,.single ?_,id⟩
  · rw [turnBreaker,if_neg (Ne.symm other)]
  · rw [turnAt]
    exact small _

theorem touchStirs : Op.Moves (Stirs now may endpoint) (touch endpoint) := by
  refine Op.movesSmall fun l => .same (fun e => ?_) id
  by_cases same : endpoint = e
  · subst same
    exact touchAt endpoint l
  · simp [touch,Op.change,Board.breaker,Assoc.get?_put,same]

theorem reportStirs (event : Event) :
    Op.Moves (Stirs now may endpoint) (metered (τ := τ) (Meter.report event)) := by
  refine Op.movesSmall fun l => ?_
  unfold metered
  split
  · exact .same (fun _ => rfl) id
  · rename_i m attached
    refine .same (fun _ => rfl) fun quiet m' same => ?_
    cases same
    exact Meter.reportWilling event (quiet m attached)

theorem announceStirs (c : Option PhaseChange) :
    Op.Moves (Stirs now may endpoint) (announce (τ := τ) endpoint c) := by
  cases c with
  | none => exact Op.movesPure _
  | some c => exact Op.movesBind (Op.movesChange fun _ => .same (fun _ => rfl) id) fun _ => reportStirs _

theorem shiftStirs {f : Breaker τ → Option PhaseChange × Breaker τ}
    (small : ∀ b, Breaker.Change now may b (f b).2) :
    Op.Moves (Stirs now may endpoint) (shift endpoint f) :=
  Op.movesBind (turnStirs small) fun c => announceStirs c

theorem meteredBreaker (x : Op (Meter τ) Unit) (e : String) (l : Line τ) :
    (metered x l).2.board.breaker e = l.board.breaker e := by
  unfold metered
  split <;> rfl

theorem announceBreaker (endpoint e : String) (c : Option PhaseChange) (l : Line τ) :
    (announce endpoint c l).2.board.breaker e = l.board.breaker e := by
  refine Op.movesView (fun l : Line τ => l.board.breaker e) ?_ l
  cases c with
  | none => exact Op.movesPure _
  | some c =>
    exact Op.movesBind (Op.movesChange fun _ => rfl) fun _ => Op.movesSmall fun l => meteredBreaker _ e l

theorem shiftBreaker (endpoint : String) (f : Breaker τ → Option PhaseChange × Breaker τ) (l : Line τ) :
    (shift endpoint f l).2.board.breaker endpoint = (f (l.board.breaker endpoint)).2 := by
  have turned : turn endpoint f l =
      (.ok (f (l.board.breaker endpoint)).1,(turn endpoint f l).2) := rfl
  rw [shift,Op.bind_ok turned,announceBreaker,turnAt]

theorem phaseStirs : Op.Moves (Stirs now may endpoint) (phase now endpoint) :=
  Op.movesBind (shiftStirs fun _ => .looked) fun _ => Op.movesBind Op.movesRead fun _ => Op.movesPure _

theorem failureCountStirs : Op.Moves (Stirs now may endpoint) (failureCount now endpoint) :=
  turnStirs fun _ => .pruned

theorem describeStirs : Op.Moves (Stirs now may endpoint) (describe now endpoint) :=
  Op.movesBind phaseStirs fun _ => Op.movesBind failureCountStirs fun _ =>
    Op.movesBind Op.movesRead fun _ => Op.movesPure _

theorem successStirs : Op.Moves (Stirs now may endpoint) (success (τ := τ) endpoint) :=
  Op.movesBind (shiftStirs fun _ => .succeeded) fun _ => turnStirs fun _ => .forgiven

theorem endWithStirs {α : Type} (error : Fault) :
    Op.Moves (Stirs now may endpoint) (endWith now endpoint error : Op (Line τ) α) := by
  unfold endWith
  split
  · exact Op.movesBind (turnStirs fun _ => .abandoned) fun _ => Op.movesFail _
  · split
    · exact Op.movesBind (shiftStirs fun _ => .failed) fun _ => Op.movesFail _
    · exact Op.movesBind successStirs fun _ => Op.movesFail _

theorem followStirs (p : Pursuit) (u : Upshot τ) :
    Op.Moves (Stirs now may p.endpoint) (follow now p u) := by
  cases u with
  | brought v => exact Op.movesBind successStirs fun _ => Op.movesPure _
  | ended error => exact endWithStirs error
  | again error delay =>
    have hook : Op.Moves (Stirs now may p.endpoint) (Op.attempt (metered (τ := τ) (Meter.report
        (.retry p.endpoint (p.attempt + 1) error.label (Quantity.toNumber delay))))) := reportStirs _
    refine Op.movesBind hook fun hooked => ?_
    cases hooked with
    | ok u => exact Op.movesPure _
    | error f => exact endWithStirs f

theorem enterRuns (now : τ) (endpoint : String) (l : Line τ) :
    (∃ l', enter now endpoint l = (.ok (),l') ∧ Stirs now (· = .enter) endpoint l l') ∨
      ∃ f l', enter now endpoint l = (.error f,l') ∧ Stirs now (fun _ => False) endpoint l l' := by
  have looked {may : Breaker.Liberty → Prop} : Stirs now may endpoint l (shift endpoint (·.look now) l).2 :=
    chainStirs (shiftStirs (fun _ => .looked) l)
  rw [enter,Op.bind_apply]
  cases shifted : shift endpoint (·.look now) l with
  | mk result l₁ =>
    rw [shifted] at looked
    cases result with
    | error f => exact .inr ⟨f,l₁,rfl,looked⟩
    | ok u =>
      have allowed (b : Breaker τ) : Breaker.Change now (· = .enter) b (b.enter now).2 := .entered rfl
      have entered : Stirs now (· = .enter) endpoint l₁ (turn endpoint (·.enter now) l₁).2 :=
        chainStirs (turnStirs allowed l₁)
      have turned : turn endpoint (·.enter now) l₁ =
        (.ok ((l₁.board.breaker endpoint).enter now).1,(turn endpoint (·.enter now) l₁).2) := rfl
      dsimp only
      rw [Op.bind_ok turned]
      rcases (l₁.board.breaker endpoint).enterState now with ⟨told,-⟩ | ⟨told,-⟩ | ⟨⟨wait,told⟩,-,-,kept⟩
      · rw [told]
        exact .inl ⟨_,rfl,looked.trans entered⟩
      · rw [told]
        exact .inl ⟨_,rfl,looked.trans entered⟩
      · rw [told]
        refine .inr ⟨_,_,rfl,looked.trans (.same (fun e => ?_) id)⟩
        rw [turnBreaker]
        split
        · rename_i here
          subst here
          exact kept
        · rfl

def Admission.answer (endpoint : String) : Admission τ → Except Fault Unit
  | .admitted => .ok ()
  | .rejected wait => .error (.of (.circuitOpen endpoint (wait.map Quantity.toNumber)))

theorem enterDecides (now : τ) (endpoint : String) {l : Line τ}
    (told : l.Quiet ∨ ¬ (l.board.breaker endpoint).Overdue now) :
    ∃ l', enter now endpoint l =
        (Admission.answer endpoint (((l.board.breaker endpoint).look now).2.enter now).1,l') ∧
      l'.board.breaker endpoint = (((l.board.breaker endpoint).look now).2.enter now).2 := by
  have looked : ∃ l₁, shift endpoint (·.look now) l = (.ok (),l₁) ∧
      l₁.board.breaker endpoint = ((l.board.breaker endpoint).look now).2 := by
    rcases told with quiet | early
    · obtain ⟨l₁,shifted,-,at₁⟩ := shiftQuiet endpoint (·.look now) quiet
      exact ⟨l₁,shifted,at₁⟩
    · refine ⟨(turn endpoint (·.look now) l).2,?_,turnAt endpoint (·.look now) l⟩
      have turned : turn endpoint (·.look now) l =
        (.ok ((l.board.breaker endpoint).look now).1,(turn endpoint (·.look now) l).2) := rfl
      rw [shift,Op.bind_ok turned,Breaker.lookSame early]
      rfl
  obtain ⟨l₁,shifted,at₁⟩ := looked
  have turned : turn endpoint (·.enter now) l₁ =
    (.ok ((l₁.board.breaker endpoint).enter now).1,(turn endpoint (·.enter now) l₁).2) := rfl
  refine ⟨(turn endpoint (·.enter now) l₁).2,?_,at₁ ▸ turnAt endpoint (·.enter now) l₁⟩
  rw [enter,Op.bind_ok shifted,Op.bind_ok turned,at₁]
  cases (((l.board.breaker endpoint).look now).2.enter now).1 <;> rfl

/-! A call that ends leaves no probe behind. -/

def Unprobed (endpoint : String) (l : Line τ) : Prop := (l.board.breaker endpoint).probing = false

theorem successClears (endpoint : String) (l : Line τ) : Unprobed endpoint (success endpoint l).2 := by
  refine Op.leaves (P := Unprobed endpoint) ?_ fun _ l₁ cleared => ?_
  · rw [Unprobed,shiftBreaker]
    exact (l.board.breaker endpoint).succeedProbing
  · rw [Unprobed,turnAt]
    exact cleared

theorem endWithClears {α : Type} (now : τ) (endpoint : String) (error : Fault) (l : Line τ) :
    Unprobed endpoint ((endWith now endpoint error : Op (Line τ) α) l).2 := by
  unfold endWith
  split
  · refine Op.leaves (P := Unprobed endpoint) ?_ fun _ _ cleared => cleared
    rw [Unprobed,abandon,turnAt]
    rfl
  · split
    · refine Op.leaves (P := Unprobed endpoint) ?_ fun _ _ cleared => cleared
      rw [Unprobed,failure,shiftBreaker]
      exact (l.board.breaker endpoint).heedProbing now .failed
    · exact Op.leaves (P := Unprobed endpoint) (successClears endpoint l)
        fun _ _ cleared => cleared

theorem followClears {now : τ} {p : Pursuit} {u : Upshot τ} {l l' : Line τ} {r : Except Fault (Progress τ)}
    (ran : follow now p u l = (r,l')) : (∃ delay, r = .ok (.pause delay { p with attempt := p.attempt + 1 }) ∧
      ∀ e, l'.board.breaker e = l.board.breaker e) ∨
      (∀ delay next, r ≠ .ok (.pause delay next)) ∧ Unprobed p.endpoint l' := by
  cases u with
  | brought v =>
    have cleared := Op.leaves (f := fun _ => pure (Progress.done (τ := τ) v))
      (P := Unprobed p.endpoint) (successClears p.endpoint l)
      fun _ _ cleared => cleared
    change (success p.endpoint >>= fun _ => pure (Progress.done v)) l = _ at ran
    rw [ran] at cleared
    refine .inr ⟨?_,cleared⟩
    rintro delay next rfl
    obtain ⟨_,_,-,last⟩ := Op.bindOk ran
    cases last
  | ended error =>
    have cleared := endWithClears (α := Progress τ) now p.endpoint error l
    rw [follow] at ran
    rw [ran] at cleared
    refine .inr ⟨?_,cleared⟩
    rintro delay next rfl
    exact endWithFails ran
  | again error delay =>
    have hooked (e : String) := meteredBreaker (τ := τ) (Meter.report
      (.retry p.endpoint (p.attempt + 1) error.label (Quantity.toNumber delay))) e l
    simp only [follow,Op.bind_apply,Op.attempt] at ran
    cases told : metered (τ := τ) (Meter.report
      (.retry p.endpoint (p.attempt + 1) error.label (Quantity.toNumber delay))) l with
    | mk result l₁ =>
      rw [told] at ran hooked
      cases result with
      | ok u =>
        cases ran
        exact .inl ⟨delay,rfl,hooked⟩
      | error f =>
        have cleared := endWithClears (α := Progress τ) now p.endpoint f l₁
        dsimp only at ran
        rw [ran] at cleared
        refine .inr ⟨?_,cleared⟩
        rintro delay next rfl
        exact endWithFails ran

end Line

namespace Rehearsal

inductive Control where
  | read (endpoint : String) (r : Reading)
  | success (endpoint : String)
  | failure (endpoint : String)
  | forceOpen (endpoint : String)
  | reset (endpoint : String)
  deriving DecidableEq, Repr

namespace Control

def endpoint : Control → String
  | .read endpoint _ | .success endpoint | .failure endpoint | .forceOpen endpoint | .reset endpoint => endpoint

def may : Control → Breaker.Liberty → Prop
  | .forceOpen _, l => l = .force
  | .reset _, l => l = .reset
  | _, _ => False

theorem admitsNone (c : Control) : ¬ c.may .enter := by
  cases c <;> nofun

def run (now : τ) : Control → Op (Line τ) Unit
  | .read endpoint .phase => do
    let _ ← Line.phase now endpoint
  | .read endpoint .failures => do
    let _ ← Line.failureCount now endpoint
  | .read endpoint .whole => do
    let _ ← Line.describe now endpoint
  | .success endpoint => Line.success endpoint
  | .failure endpoint => Line.failure now endpoint
  | .forceOpen endpoint => Line.shift endpoint (·.forceOpen now)
  | .reset endpoint => Line.shift endpoint (·.reset)

theorem runStirs (now : τ) (c : Control) :
    Op.Moves (Line.Stirs now c.may c.endpoint) (c.run now) := by
  cases c with
  | read endpoint r =>
    cases r with
    | phase => exact Op.movesBind Line.phaseStirs fun _ => Op.movesPure _
    | failures => exact Op.movesBind Line.failureCountStirs fun _ => Op.movesPure _
    | whole => exact Op.movesBind Line.describeStirs fun _ => Op.movesPure _
  | success endpoint => exact Line.successStirs
  | failure endpoint => exact Line.shiftStirs fun _ => .failed
  | forceOpen endpoint => exact Line.shiftStirs fun _ => .forced rfl
  | reset endpoint => exact Line.shiftStirs fun _ => .reset rfl

end Control

/-- A call through a breaker alone, or one with retries inside; the end of an attempt of a call. -/
inductive Act where
  | call (id supplier endpoint : String)
  | execute (id supplier endpoint : String)
  | finish (call : Nat) (a : Attempt)
  | control (c : Control)
  deriving Repr

inductive Act.Asks (id supplier endpoint : String) : Act → Prop where
  | call : Asks id supplier endpoint (.call id supplier endpoint)
  | execute : Asks id supplier endpoint (.execute id supplier endpoint)

def Act.may (endpoint : String) : Act → Breaker.Liberty → Prop
  | .call _ _ through, l | .execute _ _ through, l => through = endpoint ∧ l = .enter
  | .finish _ _, _ => False
  | .control c, l => c.endpoint = endpoint ∧ c.may l

theorem Act.Asks.may {a : Act} {id supplier through endpoint : String} {l : Breaker.Liberty}
    (asks : a.Asks id supplier through) (here : through = endpoint) (enters : l = .enter) : a.may endpoint l := by
  cases asks <;> exact ⟨here,enters⟩

def Act.pursuit (retries : Int) : Act → Option Pursuit
  | .execute _ _ endpoint => some ⟨endpoint,retries,0⟩
  | _ => none

theorem Act.Asks.pursuit {a : Act} {id supplier endpoint : String} (asks : a.Asks id supplier endpoint)
    {retries : Int} {p : Pursuit} (pursues : a.pursuit retries = some p) : p.endpoint = endpoint := by
  cases asks <;> cases pursues
  rfl

namespace Exchange

def act (now : τ) (a : Act) (e : Exchange τ) : Report τ × Exchange τ :=
  match a with
  | .call id supplier endpoint =>
    let (n, e) := e.add ⟨id, supplier, endpoint, none⟩
    e.beginBare now n
  | .execute id supplier endpoint =>
    let (n, e) := e.add ⟨id, supplier, endpoint, none⟩
    e.begin now n
  | .finish n a =>
    match e.calls.get? n with
    | none => (.finished [], e)
    | some c => if c.pursuit.isSome then e.advance now n a else e.advanceBare now n a
  | .control c => (.finished [], (onLine (c.run now) e).2)

def after (e : Exchange τ) (run : List (τ × Act)) : Exchange τ := run.foldl (fun e m => (e.act m.1 m.2).2) e

theorem afterAppend (e : Exchange τ) (first later : List (τ × Act)) :
    e.after (first ++ later) = (e.after first).after later := List.foldl_append

def Busy (e : Exchange τ) (endpoint : String) : Prop := ∃ n, e.calls.Holds n (·.endpoint = endpoint)

structure Fit (e : Exchange τ) : Prop where
  numbered : ∀ n c, e.calls.get? n = some c → n < e.next
  pursued : ∀ n c p, e.calls.get? n = some c → c.pursuit = some p → p.endpoint = c.endpoint
  sane : ∀ endpoint, (e.breaker endpoint).Sane
  probed : ∀ endpoint, (e.breaker endpoint).probing = true → e.Busy endpoint

inductive Goes (e : Exchange τ) (now : τ) : Act → Report τ × Exchange τ → Prop where
  | refused {a : Act} {id supplier endpoint : String} {l : Line τ} (f : Fault)
      (asks : a.Asks id supplier endpoint) (stirs : Line.Stirs now (fun _ => False) endpoint e.line l) :
      Goes e now a (.finished [(id,.error f)],
        { e with line := l, calls := e.calls.erase e.next, next := e.next + 1 })
  | admitted {a : Act} {id supplier endpoint : String} {l : Line τ} (pursuit : Option Pursuit)
      (asks : a.Asks id supplier endpoint) (stirs : Line.Stirs now (· = .enter) endpoint e.line l)
      (own : ∀ p, pursuit = some p → p.endpoint = endpoint) :
      Goes e now a (.attempting supplier,
        { e with line := l, calls := e.calls.put e.next ⟨id,supplier,endpoint,pursuit⟩, next := e.next + 1 })
  | resting {n : Nat} {a : Attempt} {c : Call} {p : Pursuit} {l : Line τ} (delay : τ)
      (found : e.calls.get? n = some c) (begun : c.pursuit = some p)
      (still : ∀ endpoint, l.board.breaker endpoint = e.breaker endpoint) (quiet : e.line.Quiet → l.Quiet) :
      Goes e now (.finish n a) (.resting delay,
        { e with line := l,
                 calls := e.calls.put n { c with pursuit := some { p with attempt := p.attempt + 1 } } })
  | ended {n : Nat} {a : Attempt} {c : Call} {l : Line τ} (r : Except Fault Value)
      (found : e.calls.get? n = some c) (stirs : Line.Stirs now (fun _ => False) c.endpoint e.line l)
      (cleared : Line.Unprobed c.endpoint l) :
      Goes e now (.finish n a) (.finished [(c.id,r)],{ e with line := l, calls := e.calls.erase n })
  | absent {n : Nat} {a : Attempt} (absent : e.calls.get? n = none) :
      Goes e now (.finish n a) (.finished [],e)
  | controlled {c : Control} {l : Line τ} (stirs : Line.Stirs now c.may c.endpoint e.line l) :
      Goes e now (.control c) (.finished [],{ e with line := l })

variable {e : Exchange τ} {now : τ}

theorem asksEnters {a : Act} {id supplier endpoint : String} (asks : a.Asks id supplier endpoint) :
    e.act now a = match Line.enter now endpoint (Line.touch endpoint e.line).2 with
      | (.ok (),l) => (.attempting supplier,
          { e with line := l, next := e.next + 1,
                   calls := e.calls.put e.next ⟨id,supplier,endpoint,
                     a.pursuit (if (l.board.breaker endpoint).probing then 0 else e.service.backoff.retries)⟩ })
      | (.error f,l) => (.finished [(id,.error f)],
          { e with line := l, calls := e.calls.erase e.next, next := e.next + 1 }) := by
  have added : (e.calls.put e.next ⟨id,supplier,endpoint,none⟩).get? e.next =
      some ⟨id,supplier,endpoint,none⟩ := Assoc.putSame _ _ _
  have gone := Assoc.putErase e.calls e.next (⟨id,supplier,endpoint,none⟩ : Call)
  have touched : Line.touch endpoint e.line = (.ok (),(Line.touch endpoint e.line).2) := rfl
  cases asks with
  | call =>
    simp only [act,add,beginBare,added,onLine,Op.within]
    rw [Op.bind_ok touched]
    rcases Line.enter now endpoint (Line.touch endpoint e.line).2 with ⟨f | u,l⟩
    · simp only [finish,gone]
    · rfl
  | execute =>
    simp only [act,add,begin,added,onLine,Op.within]
    rw [Line.begin,Op.bind_ok touched]
    rcases entered : Line.enter now endpoint (Line.touch endpoint e.line).2 with ⟨f | u,l⟩
    · rw [Op.bind_error entered]
      simp only [finish,gone]
    · rw [Op.bind_ok entered,Op.bind_ok (show Op.read l = (.ok l,l) from rfl)]
      simp only [Op.pure_apply,Assoc.putAgain]
      rfl

theorem asksGoes {a : Act} {id supplier endpoint : String} (asks : a.Asks id supplier endpoint) :
    Goes e now a (e.act now a) := by
  have start {may : Breaker.Liberty → Prop} : Line.Stirs now may endpoint e.line (Line.touch endpoint e.line).2 :=
    Line.chainStirs (Line.touchStirs e.line)
  rw [asksEnters asks]
  rcases Line.enterRuns now endpoint (Line.touch endpoint e.line).2 with ⟨l,entered,stirs⟩ | ⟨f,l,entered,stirs⟩
  · rw [entered]
    exact .admitted _ asks (start.trans stirs) fun p pursues => asks.pursuit pursues
  · rw [entered]
    exact .refused f asks (start.trans stirs)

theorem asksDecides {a : Act} {id supplier endpoint : String} (asks : a.Asks id supplier endpoint)
    (told : e.line.Quiet ∨ ¬ (e.breaker endpoint).Overdue now) :
    ∃ l, l.board.breaker endpoint = (((e.breaker endpoint).look now).2.enter now).2 ∧
      e.act now a = match (((e.breaker endpoint).look now).2.enter now).1 with
        | .admitted => (.attempting supplier,
            { e with line := l, next := e.next + 1,
                     calls := e.calls.put e.next ⟨id,supplier,endpoint,
                       a.pursuit (if (l.board.breaker endpoint).probing then 0 else e.service.backoff.retries)⟩ })
        | .rejected wait => (.finished [(id,.error (.of (.circuitOpen endpoint (wait.map Quantity.toNumber))))],
            { e with line := l, calls := e.calls.erase e.next, next := e.next + 1 }) := by
  have same : (Line.touch endpoint e.line).2.board.breaker endpoint = e.breaker endpoint :=
    Line.touchAt endpoint e.line
  obtain ⟨l,entered,at'⟩ := Line.enterDecides now endpoint (l := (Line.touch endpoint e.line).2) (same.symm ▸ told)
  rw [same] at entered at'
  refine ⟨l,at',?_⟩
  rw [asksEnters asks,entered]
  cases (((e.breaker endpoint).look now).2.enter now).1 <;> rfl

theorem settleClears (now : τ) (endpoint : String) (a : Attempt) (l : Line τ) :
    Line.Stirs now (fun _ => False) endpoint l (settleBare now endpoint a l).2 ∧
      Line.Unprobed endpoint (settleBare now endpoint a l).2 := by
  cases a with
  | returned v =>
    exact ⟨Line.chainStirs (Op.movesBind Line.successStirs (fun _ => Op.movesPure _) l),
      Op.leaves (P := Line.Unprobed endpoint) (Line.successClears endpoint l) fun _ _ cleared => cleared⟩
  | raised f => exact ⟨Line.chainStirs (Line.endWithStirs f l),Line.endWithClears now endpoint f l⟩
  | timedOut => exact ⟨Line.chainStirs (Line.endWithStirs _ l),Line.endWithClears now endpoint _ l⟩
  | cancelled => exact ⟨Line.chainStirs (Line.endWithStirs _ l),Line.endWithClears now endpoint _ l⟩

theorem finishGoes (fit : e.Fit) (n : Nat) (a : Attempt) :
    Goes e now (.finish n a) (e.act now (.finish n a)) := by
  cases found : e.calls.get? n with
  | none =>
    simp only [act,found]
    exact .absent found
  | some c =>
    cases begun : c.pursuit with
    | none =>
      obtain ⟨stirs,cleared⟩ := settleClears now c.endpoint a e.line
      simp only [act,found,begun,Option.isSome_none,Bool.false_eq_true,if_false,advanceBare,onLine,Op.within]
      exact .ended _ found stirs cleared
    | some p =>
      have own := fit.pursued n c p found begun
      have stirs : Line.Stirs now (fun _ => False) p.endpoint e.line _ :=
        Line.chainStirs (Line.followStirs p (Line.upshot e.service p a) e.line)
      simp only [act,found,begun,Option.isSome_some,if_true,advance,onLine,Op.within,Line.advanceFollows]
      cases ran : Line.follow now p (Line.upshot e.service p a) e.line with
      | mk r l =>
        rw [ran,own] at stirs
        rcases Line.followClears ran with ⟨delay,rfl,still⟩ | ⟨done,cleared⟩
        · exact .resting delay found begun still stirs.quiet
        · rw [own] at cleared
          rcases r with f | v | ⟨delay,next⟩
          · exact .ended _ found stirs cleared
          · exact .ended _ found stirs cleared
          · exact absurd rfl (done delay next)

theorem actGoes (fit : e.Fit) (now : τ) (a : Act) : Goes e now a (e.act now a) := by
  cases a with
  | call id supplier endpoint => exact asksGoes .call
  | execute id supplier endpoint => exact asksGoes .execute
  | finish n a => exact finishGoes fit n a
  | control c => exact .controlled (Line.chainStirs (c.runStirs now e.line))

/-! Every act, every run. -/

theorem Goes.endpoints {a : Act} {x : Report τ × Exchange τ} (goes : Goes e now a x) (endpoint : String) :
    ReflTransGen (Breaker.Change now (a.may endpoint)) (e.breaker endpoint) (x.2.breaker endpoint) := by
  cases goes with
  | refused f asks stirs => exact stirs.at endpoint fun _ _ => nofun
  | admitted pursuit asks stirs own => exact stirs.at endpoint fun here l enters => asks.may here enters
  | resting delay found begun still quiet =>
    have same : _ = e.breaker endpoint := still endpoint
    exact same ▸ .refl
  | ended r found stirs cleared => exact stirs.at endpoint fun _ _ => nofun
  | absent absent => exact .refl
  | controlled stirs => exact stirs.at endpoint fun here l allowed => ⟨here,allowed⟩

theorem Goes.sane {a : Act} {x : Report τ × Exchange τ} (goes : Goes e now a x) (fit : e.Fit)
    (endpoint : String) : (x.2.breaker endpoint).Sane :=
  Breaker.chainSane (goes.endpoints endpoint) (fit.sane endpoint)

theorem Goes.kept {a : Act} {x : Report τ × Exchange τ} (goes : Goes e now a x) {n : Nat} {c : Call}
    (found : x.2.calls.get? n = some c) :
    (∃ c₀, e.calls.get? n = some c₀ ∧ c.endpoint = c₀.endpoint ∧ ∀ p, c.pursuit = some p →
      ∃ p₀, c₀.pursuit = some p₀ ∧ p.endpoint = p₀.endpoint) ∧ e.next ≤ x.2.next ∨
    n = e.next ∧ x.2.next = e.next + 1 ∧ ∀ p, c.pursuit = some p → p.endpoint = c.endpoint := by
  cases goes with
  | refused f asks stirs =>
    exact .inl ⟨⟨c,Assoc.eraseFound found,rfl,fun p begun => ⟨p,begun,rfl⟩⟩,Nat.le_succ _⟩
  | admitted pursuit asks stirs own =>
    rw [Assoc.get?_put] at found
    split at found
    · rename_i same
      cases found
      exact .inr ⟨same.symm,rfl,own⟩
    · exact .inl ⟨⟨c,found,rfl,fun p begun => ⟨p,begun,rfl⟩⟩,Nat.le_succ _⟩
  | @resting m _ c₀ p₀ l delay before begun still quiet =>
    rw [Assoc.get?_put] at found
    split at found
    · rename_i same
      subst same
      cases found
      refine .inl ⟨⟨c₀,before,rfl,fun p pursues => ⟨p₀,begun,?_⟩⟩,Nat.le_refl _⟩
      cases pursues
      rfl
    · exact .inl ⟨⟨c,found,rfl,fun p begun => ⟨p,begun,rfl⟩⟩,Nat.le_refl _⟩
  | ended r before stirs cleared =>
    exact .inl ⟨⟨c,Assoc.eraseFound found,rfl,fun p begun => ⟨p,begun,rfl⟩⟩,Nat.le_refl _⟩
  | absent | controlled => exact .inl ⟨⟨c,found,rfl,fun p begun => ⟨p,begun,rfl⟩⟩,Nat.le_refl _⟩

theorem Goes.probed {a : Act} {x : Report τ × Exchange τ} (goes : Goes e now a x) (fit : e.Fit)
    {endpoint : String} (probing : (x.2.breaker endpoint).probing = true) : x.2.Busy endpoint := by
  cases goes with
  | refused f asks stirs =>
    obtain ⟨n,c,found,own⟩ := fit.probed endpoint (stirs.probing id endpoint probing)
    refine ⟨n,c,?_,own⟩
    rw [Assoc.get?_erase,if_neg (Nat.ne_of_gt (fit.numbered n c found))]
    exact found
  | @admitted _ id supplier through l pursuit asks stirs own =>
    by_cases here : endpoint = through
    · exact ⟨e.next,_,Assoc.putSame _ _ _,here.symm⟩
    · have same : l.board.breaker endpoint = e.breaker endpoint := stirs.others endpoint here
      obtain ⟨n,c,found,mine⟩ := fit.probed endpoint (same ▸ probing)
      refine ⟨n,c,?_,mine⟩
      rw [Assoc.get?_put,if_neg (Nat.ne_of_gt (fit.numbered n c found))]
      exact found
  | @resting n a c p l delay found begun still quiet =>
    obtain ⟨m,c',found',mine⟩ := fit.probed endpoint (still endpoint ▸ probing)
    refine ⟨m,?_⟩
    rw [Assoc.holdsPut]
    by_cases same : n = m
    · subst same
      cases found.symm.trans found'
      exact .inl ⟨rfl,mine⟩
    · exact .inr ⟨same,c',found',mine⟩
  | @ended n a c l r found stirs cleared =>
    obtain ⟨m,c',found',mine⟩ := fit.probed endpoint (stirs.probing id endpoint probing)
    refine ⟨m,c',?_,mine⟩
    rw [Assoc.get?_erase,if_neg]
    · exact found'
    · rintro rfl
      cases found.symm.trans found'
      rw [← mine] at probing
      cases cleared.symm.trans probing
  | absent absent => exact fit.probed endpoint probing
  | @controlled c l stirs => exact fit.probed endpoint (stirs.probing c.admitsNone endpoint probing)

theorem Goes.fit {a : Act} {x : Report τ × Exchange τ} (goes : Goes e now a x) (fit : e.Fit) : x.2.Fit where
  numbered n c found := by
    rcases goes.kept found with ⟨⟨c₀,before,-⟩,next⟩ | ⟨rfl,next,-⟩
    · exact Nat.lt_of_lt_of_le (fit.numbered n c₀ before) next
    · exact next ▸ Nat.lt_succ_self _
  pursued n c p found begun := by
    rcases goes.kept found with ⟨⟨c₀,before,same,follows⟩,-⟩ | ⟨-,-,own⟩
    · obtain ⟨p₀,begun₀,through⟩ := follows p begun
      exact through.trans ((fit.pursued n c₀ p₀ before begun₀).trans same.symm)
    · exact own p begun
  sane := goes.sane fit
  probed _ := goes.probed fit

theorem Goes.steady {a : Act} {x : Report τ × Exchange τ} (goes : Goes e now a x) :
    x.2.service = e.service ∧ e.next ≤ x.2.next ∧ (e.line.Quiet → x.2.line.Quiet) := by
  cases goes with
  | refused f asks stirs => exact ⟨rfl,Nat.le_succ _,stirs.quiet⟩
  | admitted pursuit asks stirs own => exact ⟨rfl,Nat.le_succ _,stirs.quiet⟩
  | resting delay found begun still quiet => exact ⟨rfl,Nat.le_refl _,quiet⟩
  | ended r found stirs cleared => exact ⟨rfl,Nat.le_refl _,stirs.quiet⟩
  | absent absent => exact ⟨rfl,Nat.le_refl _,id⟩
  | controlled stirs => exact ⟨rfl,Nat.le_refl _,stirs.quiet⟩

theorem createFit (rule : BreakerRule τ) (meter : Option (Meter τ)) (service : Service τ) :
    (create ⟨.create rule,meter⟩ service).Fit := by
  refine ⟨nofun,nofun,?_,?_⟩ <;> nofun

theorem afterFit (fit : e.Fit) (run : List (τ × Act)) : (e.after run).Fit := by
  induction run generalizing e with
  | nil => exact fit
  | cons m rest ih => exact ih ((actGoes fit m.1 m.2).fit fit)

theorem afterSteady (fit : e.Fit) (run : List (τ × Act)) : (e.after run).service = e.service ∧
    e.next ≤ (e.after run).next ∧ (e.line.Quiet → (e.after run).line.Quiet) := by
  induction run generalizing e with
  | nil => exact ⟨rfl,Nat.le_refl _,id⟩
  | cons m rest ih =>
    have goes := actGoes fit m.1 m.2
    obtain ⟨service,next,quiet⟩ := goes.steady
    obtain ⟨service',next',quiet'⟩ := ih (goes.fit fit)
    exact ⟨service'.trans service,Nat.le_trans next next',fun silent => quiet' (quiet silent)⟩

end Exchange
end Rehearsal
end ReadThrough
