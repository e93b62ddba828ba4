import Mathlib.Data.List.Induction
import ReadThrough.Proofs.Mirror

/-! What the acts of a run show the breaker of one endpoint: that a call through it ended, and how, that it is
forced open or reset, or nothing. All that an act does to the breaker is told by what it shows, but for a closing
that someone refuses to hear of, which forgives nothing. -/
namespace ReadThrough
open Relation
variable {τ : Type}

inductive Cue where
  | none
  | shown (s : Sign)
  | forced
  | reset
  deriving DecidableEq, Repr

/-! What no one does by hand. -/

theorem Cue.noneUnhanded : Cue.none ≠ .forced ∧ Cue.none ≠ .reset := ⟨nofun,nofun⟩

theorem Cue.shownUnhanded (s : Sign) : Cue.shown s ≠ .forced ∧ Cue.shown s ≠ .reset := ⟨nofun,nofun⟩

/-- What an act showed a breaker, when, and the phase it found it in, whether or not anyone had looked. -/
structure Sighting (τ : Type) where
  now : τ
  cue : Cue
  phase : Phase
  deriving Repr

def Sighting.since (ends : Sighting τ → Bool) (seen : List (Sighting τ)) : List (Sighting τ) :=
  (seen.reverse.takeWhile (!ends ·)).reverse

theorem Sighting.sinceSnoc (ends : Sighting τ → Bool) (seen : List (Sighting τ)) (x : Sighting τ) :
    since ends (seen ++ [x]) = if ends x then [] else since ends seen ++ [x] := by
  unfold since
  rw [List.reverse_append,List.reverse_singleton,List.singleton_append,List.takeWhile_cons]
  cases ends x <;> simp

variable [Quantity τ]

namespace Breaker
variable {b b' : Breaker τ} {now : τ} {quiet : Prop} {c : Cue}

/-! The endings of a call, each taken apart once. -/

theorem tripState (b : Breaker τ) (now : τ) :
    (b.trip now).2 = { b with openUntil := now + b.cooldown, failures := [], phase := .opened } :=
  moveToState _ .opened

omit [Quantity τ] in
theorem succeedState (b : Breaker τ) :
    b.phase = .halfOpen ∧ b.succeed.2 =
      { b with probing := false, cooldown := b.rule.baseCooldown, phase := .closed } ∨
    b.phase ≠ .halfOpen ∧ b.succeed.2 = { b with probing := false } := by
  by_cases half : b.phase = .halfOpen
  · refine .inl ⟨half,?_⟩
    rw [succeed,if_pos half,moveToState]
  · refine .inr ⟨half,?_⟩
    rw [succeed,if_neg half]

def filled (b : Breaker τ) (now : τ) : List τ :=
  (b.failures ++ [now]).filter fun t => decide (now - b.rule.window < t)

theorem failState (b : Breaker τ) (now : τ) :
    (∃ longer, b.phase = .halfOpen ∧ longer = Quantity.least (Quantity.double b.cooldown) b.rule.maxCooldown ∧
      (b.fail now).2 = { b with probing := false, cooldown := longer, openUntil := now + longer, failures := [],
                                phase := .opened }) ∨
    (b.phase = .closed ∧ b.rule.threshold ≤ (b.filled now).length ∧ (b.fail now).2 =
      { b with probing := false, openUntil := now + b.cooldown, failures := [], phase := .opened }) ∨
    (b.phase ≠ .halfOpen ∧ ¬ (b.phase = .closed ∧ b.rule.threshold ≤ (b.filled now).length) ∧
      (b.fail now).2 = { b with probing := false, failures := b.filled now }) := by
  by_cases half : b.phase = .halfOpen
  · refine .inl ⟨_,half,rfl,?_⟩
    rw [fail,if_pos half,tripState]
  · have counted : b.fail now = if b.phase = .closed ∧ b.rule.threshold ≤ (b.filled now).length then
        ({ b with probing := false, failures := b.filled now } : Breaker τ).trip now
      else (none,{ b with probing := false, failures := b.filled now }) := if_neg half
    by_cases full : b.phase = .closed ∧ b.rule.threshold ≤ (b.filled now).length
    · refine .inr (.inl ⟨full.1,full.2,?_⟩)
      rw [counted,if_pos full,tripState]
    · refine .inr (.inr ⟨half,full,?_⟩)
      rw [counted,if_neg full]

inductive Idle (now : τ) (b : Breaker τ) : Breaker τ → Prop where
  | looked : Idle now b (b.look now).2
  | entered : Idle now b (b.enter now).2
  | pruned : Idle now b (b.prune now)

inductive Heeds (now : τ) (quiet : Prop) (b : Breaker τ) : Cue → Breaker τ → Prop where
  | idle {b' : Breaker τ} (chain : ReflTransGen (Idle now) b b') : Heeds now quiet b .none b'
  | shown (s : Sign) : Heeds now quiet b (.shown s) (b.heed now s)
  | unforgiven (loud : ¬ quiet) : Heeds now quiet b (.shown .answered) b.succeed.2
  | forced : Heeds now quiet b .forced (b.forceOpen now).2
  | reset : Heeds now quiet b .reset b.reset.2

theorem Heeds.louder {louder : Prop} (loud : louder → quiet) (heeds : b.Heeds now quiet c b') :
    b.Heeds now louder c b' := by
  cases heeds with
  | idle chain => exact .idle chain
  | shown s => exact .shown s
  | unforgiven deaf => exact .unforgiven fun calm => deaf (loud calm)
  | forced => exact .forced
  | reset => exact .reset

structure Rests (b b' : Breaker τ) : Prop where
  rule : b'.rule = b.rule
  cooldown : b'.cooldown = b.cooldown
  openUntil : b'.openUntil = b.openUntil
  phase : b'.phase = b.phase ∨ b.phase = .opened ∧ b'.phase = .halfOpen

omit [Quantity τ] in
theorem Rests.trans {b'' : Breaker τ} (first : b.Rests b') (later : b'.Rests b'') : b.Rests b'' := by
  refine ⟨later.rule.trans first.rule,later.cooldown.trans first.cooldown,later.openUntil.trans first.openUntil,?_⟩
  rcases later.phase with same | ⟨opened,half⟩
  · rw [same]
    exact first.phase
  · rcases first.phase with same | ⟨opened',half'⟩
    · exact .inr ⟨same ▸ opened,half⟩
    · exact .inr ⟨opened',half⟩

theorem Idle.rests (idle : b.Idle now b') : b.Rests b' := by
  cases idle with
  | looked =>
    rcases b.lookState now with same | ⟨opened,turned⟩
    · rw [same]
      exact ⟨rfl,rfl,rfl,.inl rfl⟩
    · rw [turned]
      exact ⟨rfl,rfl,rfl,.inr ⟨opened,rfl⟩⟩
  | entered =>
    rcases b.enterState now with ⟨-,-,same⟩ | ⟨-,-,-,raised⟩ | ⟨-,-,-,same⟩
    · rw [same]
      exact ⟨rfl,rfl,rfl,.inl rfl⟩
    · rw [raised]
      exact ⟨rfl,rfl,rfl,.inl rfl⟩
    · rw [same]
      exact ⟨rfl,rfl,rfl,.inl rfl⟩
  | pruned => exact ⟨rfl,rfl,rfl,.inl rfl⟩

theorem idleRests (chain : ReflTransGen (Idle now) b b') : b.Rests b' := by
  induction chain with
  | refl => exact ⟨rfl,rfl,rfl,.inl rfl⟩
  | tail _ idle ih => exact ih.trans idle.rests

structure Opens (now period : τ) (b : Breaker τ) : Prop where
  phase : b.phase = .opened
  cooldown : b.cooldown = period
  lasts : b.openUntil = now + period

inductive Turns (now : τ) (b : Breaker τ) : Cue → Breaker τ → Prop where
  | rests {c : Cue} {b' : Breaker τ} (rests : b.Rests b') (unhanded : c ≠ .forced ∧ c ≠ .reset)
      (undecided : b.phase = .halfOpen → c = .none ∨ c = .shown .nothing)
      (few : b.phase = .closed → c = .shown .failed → ¬ b.rule.threshold ≤ (b.filled now).length) : Turns now b c b'
  | closes {b' : Breaker τ} (half : b.phase = .halfOpen) (rule : b'.rule = b.rule) (phase : b'.phase = .closed)
      (cooldown : b'.cooldown = b.rule.baseCooldown) : Turns now b (.shown .answered) b'
  | trips {b' : Breaker τ} (closed : b.phase = .closed) (full : b.rule.threshold ≤ (b.filled now).length)
      (rule : b'.rule = b.rule) (opens : b'.Opens now b.cooldown) : Turns now b (.shown .failed) b'
  | reopens {b' : Breaker τ} (half : b.phase = .halfOpen) (rule : b'.rule = b.rule)
      (opens : b'.Opens now (Quantity.least (Quantity.double b.cooldown) b.rule.maxCooldown)) :
      Turns now b (.shown .failed) b'
  | forced {b' : Breaker τ} (rule : b'.rule = b.rule) (opens : b'.Opens now b.cooldown) : Turns now b .forced b'
  | reset {b' : Breaker τ} (rule : b'.rule = b.rule) (phase : b'.phase = .closed)
      (cooldown : b'.cooldown = b.rule.baseCooldown) : Turns now b .reset b'

theorem answeredTurns (ended : b' = b.succeed.2.forgive ∨ b' = b.succeed.2) : b.Turns now (.shown .answered) b' := by
  rcases b.succeedState with ⟨half,done⟩ | ⟨half,done⟩
  · rw [done] at ended
    rcases ended with rfl | rfl <;> exact .closes half rfl rfl rfl
  · rw [done] at ended
    have rests : b.Rests b' := by rcases ended with rfl | rfl <;> exact ⟨rfl,rfl,rfl,.inl rfl⟩
    exact .rests rests (Cue.shownUnhanded _) (fun bad => absurd bad half) nofun

theorem Heeds.turns (heeds : b.Heeds now quiet c b') : b.Turns now c b' := by
  cases heeds with
  | idle chain => exact .rests (idleRests chain) Cue.noneUnhanded (fun _ => .inl rfl) nofun
  | shown s =>
    cases s with
    | answered => exact answeredTurns (.inl rfl)
    | failed =>
      rcases b.failState now with ⟨longer,half,rfl,done⟩ | ⟨closed,full,done⟩ | ⟨half,few,done⟩
      · rw [heed,done]
        exact .reopens half rfl ⟨rfl,rfl,rfl⟩
      · rw [heed,done]
        exact .trips closed full rfl ⟨rfl,rfl,rfl⟩
      · rw [heed,done]
        exact .rests ⟨rfl,rfl,rfl,.inl rfl⟩ (Cue.shownUnhanded _) (fun bad => absurd bad half)
          fun closed _ full => few ⟨closed,full⟩
    | nothing =>
      exact .rests ⟨rfl,rfl,rfl,.inl rfl⟩ (Cue.shownUnhanded _) (fun _ => .inr rfl) fun _ failed => by cases failed
  | unforgiven loud => exact answeredTurns (.inr rfl)
  | forced =>
    rw [forceOpen,tripState]
    exact .forced rfl ⟨rfl,rfl,rfl⟩
  | reset =>
    rw [Breaker.reset,moveToState]
    exact .reset rfl rfl rfl

theorem Turns.rule (turns : b.Turns now c b') : b'.rule = b.rule := by
  cases turns with
  | rests rests => exact rests.rule
  | closes half rule | trips closed full rule | reopens half rule | forced rule | reset rule => exact rule

inductive Becomes (quiet : Prop) (b : Breaker τ) : List (Sighting τ) → Breaker τ → Prop where
  | start : Becomes quiet b [] b
  | step {seen : List (Sighting τ)} {b' b'' : Breaker τ} {now : τ} {c : Cue} (before : Becomes quiet b seen b')
      (heeds : b'.Heeds now quiet c b'') : Becomes quiet b (seen ++ [⟨now,c,b'.phase⟩]) b''

theorem becomesRule {seen : List (Sighting τ)} (becomes : b.Becomes quiet seen b') : b'.rule = b.rule := by
  induction becomes with
  | start => rfl
  | step before heeds ih => exact heeds.turns.rule.trans ih

end Breaker

namespace Line
variable {now : τ} {endpoint at' : String}

/-! The breakers where one is only looked at. -/

def Idles (now : τ) (endpoint : String) (l l' : Line τ) : Prop :=
  ReflTransGen (Breaker.Idle now) (l.board.breaker endpoint) (l'.board.breaker endpoint)

theorem Idles.same {l l' : Line τ} (same : l'.board.breaker endpoint = l.board.breaker endpoint) :
    Idles now endpoint l l' := by
  rw [Idles,same]

theorem chainIdles {l l' : Line τ} (chain : ReflTransGen (Idles now endpoint) l l') : Idles now endpoint l l' := by
  induction chain with
  | refl => exact .refl
  | tail _ idles ih => exact ih.trans idles

theorem turnIdles {α : Type} {f : Breaker τ → α × Breaker τ} (small : ∀ b, Breaker.Idle now b (f b).2) :
    Op.Moves (Idles now endpoint) (turn at' f) :=
  Op.movesSmall fun l => by
    rw [Idles,turnBreaker]
    split
    · exact .single (small _)
    · exact .refl

theorem shiftIdles {f : Breaker τ → Option PhaseChange × Breaker τ} (small : ∀ b, Breaker.Idle now b (f b).2) :
    Op.Moves (Idles now endpoint) (shift at' f) :=
  Op.movesBind (turnIdles small) fun c => Op.movesSmall fun l => .same (announceBreaker at' endpoint c l)

theorem phaseIdles : Op.Moves (Idles now endpoint) (phase now at') :=
  Op.movesBind (shiftIdles fun _ => .looked) fun _ => Op.movesBind Op.movesRead fun _ => Op.movesPure _

theorem failureCountIdles : Op.Moves (Idles now endpoint) (failureCount now at') := turnIdles fun _ => .pruned

theorem describeIdles : Op.Moves (Idles now endpoint) (describe now at') :=
  Op.movesBind phaseIdles fun _ => Op.movesBind failureCountIdles fun _ =>
    Op.movesBind Op.movesRead fun _ => Op.movesPure _

theorem enterIdles : Op.Moves (Idles now endpoint) (enter (τ := τ) now at') := by
  refine Op.movesBind (shiftIdles fun _ => .looked) fun _ => Op.movesBind (turnIdles fun _ => .entered) fun told => ?_
  cases told with
  | admitted => exact Op.movesPure _
  | rejected wait => exact Op.movesFail _

theorem touchSame (l : Line τ) : (touch at' l).2.board.breaker endpoint = l.board.breaker endpoint := by
  by_cases here : at' = endpoint
  · subst here
    exact touchAt at' l
  · simp [touch,Op.change,Board.breaker,Assoc.get?_put,here]

/-! The breaker at an endpoint that is told how a call ended, whoever watches. -/

omit [Quantity τ] in
def refuses (l : Line τ) : Bool :=
  match l.meter with
  | some m =>
    match m.sink with
    | .refusing => true
    | _ => false
  | none => false

omit [Quantity τ] in
theorem refusesIff {l : Line τ} : l.refuses = true ↔ ¬ l.Quiet := by
  unfold refuses Quiet
  cases l.meter with
  | none => simp
  | some m => cases kind : m.sink <;> simp [kind]

theorem shiftHeeds {f : Breaker τ → Option PhaseChange × Breaker τ} {c : Cue} {quiet : Prop}
    (heeds : ∀ b, Breaker.Heeds now quiet b c (f b).2) (l : Line τ) :
    (l.board.breaker endpoint).Heeds now quiet c ((shift endpoint f l).2.board.breaker endpoint) := by
  rw [shiftBreaker]
  exact heeds _

theorem successHeeds (now : τ) (endpoint : String) (l : Line τ) :
    (l.board.breaker endpoint).Heeds now l.Quiet (.shown .answered)
      ((success endpoint l).2.board.breaker endpoint) := by
  by_cases quiet : l.Quiet
  · obtain ⟨l',done,-,at'⟩ := successQuiet endpoint now quiet
    rw [done,at']
    exact .shown .answered
  · have closed := shiftBreaker endpoint (·.succeed) l
    rw [success,Op.bind_apply]
    rcases ran : shift endpoint (·.succeed) l with ⟨f | u,l₁⟩
    · rw [ran] at closed
      dsimp only at closed ⊢
      rw [closed]
      exact .unforgiven quiet
    · rw [ran] at closed
      dsimp only at closed ⊢
      rw [turnAt,closed]
      exact .shown .answered

theorem endWithHeeds {α : Type} (now : τ) (endpoint : String) (error : Fault) (l : Line τ) :
    (l.board.breaker endpoint).Heeds now l.Quiet (.shown error.sign)
      (((endWith now endpoint error : Op (Line τ) α) l).2.board.breaker endpoint) := by
  unfold endWith Fault.sign
  split
  · rw [Op.lastState fun _ _ => rfl,abandon,turnAt]
    exact .shown .nothing
  · split
    · rw [Op.lastState fun _ _ => rfl]
      exact shiftHeeds (fun _ => .shown .failed) l
    · rw [Op.lastState fun _ _ => rfl]
      exact successHeeds now endpoint l

def Upshot.cue (refused : Bool) : Upshot τ → Cue
  | .brought _ => .shown .answered
  | .ended error => .shown error.sign
  | .again _ _ => if refused then .shown (Fault.of .noDestination).sign else .none

theorem followHeeds (now : τ) (p : Pursuit) (u : Upshot τ) (l : Line τ) :
    (l.board.breaker p.endpoint).Heeds now l.Quiet (u.cue l.refuses)
      ((follow now p u l).2.board.breaker p.endpoint) := by
  cases u with
  | brought v =>
    rw [follow,Op.lastState fun _ _ => rfl]
    exact successHeeds now p.endpoint l
  | ended error => exact endWithHeeds now p.endpoint error l
  | again error delay =>
    let event : Event := .retry p.endpoint (p.attempt + 1) error.label (Quantity.toNumber delay)
    have told := reportTold (e := event) (fun m willing => by
      obtain ⟨m',reported,-⟩ :=
        Meter.reportRetry willing p.endpoint (p.attempt + 1) error.label (Quantity.toNumber delay)
      rw [reported]) l
    have same := meteredBreaker (Meter.report event) p.endpoint l
    have still := reportQuiet event l
    simp only [follow,Op.bind_apply,Op.attempt]
    rcases ran : metered (Meter.report event) l with ⟨answer,l₁⟩
    rw [ran] at told same still
    rcases told with ⟨quiet,rfl⟩ | ⟨loud,rfl⟩
    · have calm : l.refuses = false := Bool.eq_false_iff.mpr fun loud => refusesIff.mp loud quiet
      rw [calm]
      exact .idle (same ▸ .refl)
    · have ended := endWithHeeds (α := Progress τ) now p.endpoint (.of .noDestination) l₁
      rw [same,still] at ended
      rw [refusesIff.mpr loud]
      exact ended

end Line

namespace Rehearsal

def Control.cue : Control → Cue
  | .read _ _ => .none
  | .success _ => .shown .answered
  | .failure _ => .shown .failed
  | .forceOpen _ => .forced
  | .reset _ => .reset

theorem Control.runHeeds (now : τ) (c : Control) (l : Line τ) :
    (l.board.breaker c.endpoint).Heeds now l.Quiet c.cue ((c.run now l).2.board.breaker c.endpoint) := by
  cases c with
  | read endpoint r =>
    refine .idle (Line.chainIdles ?_)
    cases r with
    | phase => exact Op.movesBind Line.phaseIdles (fun _ => Op.movesPure _) l
    | failures => exact Op.movesBind Line.failureCountIdles (fun _ => Op.movesPure _) l
    | whole => exact Op.movesBind Line.describeIdles (fun _ => Op.movesPure _) l
  | success endpoint => exact Line.successHeeds now endpoint l
  | failure endpoint => exact Line.shiftHeeds (fun _ => .shown .failed) l
  | forceOpen endpoint => exact Line.shiftHeeds (fun _ => .forced) l
  | reset endpoint => exact Line.shiftHeeds (fun _ => .reset) l

namespace Exchange
variable {e : Exchange τ} {now : τ} {endpoint : String}

def cue (e : Exchange τ) (endpoint : String) : Act → Cue
  | .call _ _ _ | .execute _ _ _ => .none
  | .finish n a =>
    match e.calls.get? n with
    | none => .none
    | some c =>
      if c.endpoint = endpoint then
        match c.pursuit with
        | none => .shown a.sign
        | some p => (Line.upshot e.service p a).cue e.line.refuses
      else .none
  | .control c => if c.endpoint = endpoint then c.cue else .none

theorem Goes.finishElsewhere {x : Report τ × Exchange τ} {n : Nat} {a : Attempt} {c : Call}
    (goes : Goes e now (.finish n a) x) (found : e.calls.get? n = some c) (elsewhere : endpoint ≠ c.endpoint) :
    x.2.breaker endpoint = e.breaker endpoint := by
  cases goes with
  | refused f asks => cases asks
  | admitted pursuit asks => cases asks
  | resting delay found' begun still => exact still endpoint
  | ended r found' stirs =>
    cases found.symm.trans found'
    exact stirs.others endpoint elsewhere
  | absent absent => rfl

theorem settleHeeds (now : τ) (endpoint : String) (a : Attempt) (l : Line τ) :
    (l.board.breaker endpoint).Heeds now l.Quiet (.shown a.sign)
      ((settleBare now endpoint a l).2.board.breaker endpoint) := by
  cases a with
  | returned v =>
    rw [settleBare,Op.lastState fun _ _ => rfl]
    exact Line.successHeeds now endpoint l
  | raised f => exact Line.endWithHeeds now endpoint f l
  | timedOut => exact Line.endWithHeeds now endpoint Fault.timeUp l
  | cancelled => exact Line.endWithHeeds now endpoint (.of .cancelled) l

theorem asksIdles {a : Act} {id supplier through : String} (asks : a.Asks id supplier through) :
    Line.Idles now endpoint e.line (e.act now a).2.line := by
  have entered : Line.Idles now endpoint e.line (Line.enter now through (Line.touch through e.line).2).2 :=
    Line.chainIdles (.head (.same (Line.touchSame e.line)) (Line.enterIdles (Line.touch through e.line).2))
  rw [asksEnters asks]
  rcases ran : Line.enter now through (Line.touch through e.line).2 with ⟨f | u,l⟩ <;> rw [ran] at entered <;>
    exact entered

theorem actHeeds (fit : e.Fit) (now : τ) (a : Act) (endpoint : String) :
    (e.breaker endpoint).Heeds now e.line.Quiet (e.cue endpoint a) ((e.act now a).2.breaker endpoint) := by
  cases a with
  | call id supplier through => exact .idle (asksIdles .call)
  | execute id supplier through => exact .idle (asksIdles .execute)
  | finish n a =>
    cases found : e.calls.get? n with
    | none =>
      simp only [act,cue,found]
      exact .idle .refl
    | some c =>
      by_cases here : c.endpoint = endpoint
      · subst here
        simp only [cue,found,if_true]
        cases begun : c.pursuit with
        | none =>
          have heeds := settleHeeds now c.endpoint a e.line
          simp only [act,found,begun,Option.isSome_none,Bool.false_eq_true,if_false,advanceBare,onLine,Op.within]
          exact heeds
        | some p =>
          have own := fit.pursued n c p found begun
          have heeds := Line.followHeeds now p (Line.upshot e.service p a) e.line
          rw [own] at heeds
          simp only [act,found,begun,Option.isSome_some,if_true,advance,onLine,Op.within,Line.advanceFollows]
          rcases ran : Line.follow now p (Line.upshot e.service p a) e.line with ⟨f | v | ⟨delay,next⟩,l⟩ <;>
            rw [ran] at heeds <;> exact heeds
      · simp only [cue,found,if_neg here]
        rw [(actGoes fit now (.finish n a)).finishElsewhere found (Ne.symm here)]
        exact .idle .refl
  | control c =>
    by_cases here : c.endpoint = endpoint
    · subst here
      rw [cue,if_pos rfl]
      exact c.runHeeds now e.line
    · rw [cue,if_neg here]
      have stirs := Line.chainStirs (c.runStirs now e.line)
      have same : (e.act now (.control c)).2.breaker endpoint = e.breaker endpoint :=
        stirs.others endpoint (Ne.symm here)
      rw [same]
      exact .idle .refl

/-! What the acts of a run show, one after the other. -/

def sighting (e : Exchange τ) (endpoint : String) (now : τ) (a : Act) : Sighting τ :=
  ⟨now,e.cue endpoint a,(e.breaker endpoint).phase⟩

def history (endpoint : String) (e : Exchange τ) : List (τ × Act) → List (Sighting τ)
  | [] => []
  | m :: rest => e.sighting endpoint m.1 m.2 :: (e.act m.1 m.2).2.history endpoint rest

theorem historyAppend (endpoint : String) (e : Exchange τ) (first later : List (τ × Act)) :
    e.history endpoint (first ++ later) = e.history endpoint first ++ (e.after first).history endpoint later := by
  induction first generalizing e with
  | nil => rfl
  | cons m rest ih => exact congrArg (_ :: ·) (ih _)

theorem historyMoments (endpoint : String) (e : Exchange τ) (run : List (τ × Act)) :
    (e.history endpoint run).map (·.now) = run.map (·.1) := by
  induction run generalizing e with
  | nil => rfl
  | cons m rest ih => exact congrArg (_ :: ·) (ih _)

theorem afterBecomes (fit : e.Fit) (endpoint : String) (run : List (τ × Act)) :
    (e.breaker endpoint).Becomes e.line.Quiet (e.history endpoint run) ((e.after run).breaker endpoint) := by
  induction run using List.reverseRecOn with
  | nil => exact .start
  | append_singleton before m ih =>
    have heeds := actHeeds (afterFit fit before) m.1 m.2 endpoint
    rw [historyAppend,afterAppend]
    exact .step ih (heeds.louder (afterSteady fit before).2.2)

end Exchange
end Rehearsal
end ReadThrough
