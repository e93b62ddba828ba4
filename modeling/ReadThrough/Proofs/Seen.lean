import ReadThrough.Proofs.Circuit
import ReadThrough.Proofs.Twin

/-! Circuits looked at early. A look finds an open circuit half open once its cooldown has passed, and
a count drops the failures that no longer matter; a call does both by itself before anything else. So a
circuit that was looked at and one that was not are told apart only where a call ends. -/
namespace ReadThrough
variable {τ : Type} [Quantity τ]

/-- The clock goes on from one moment to another: what the first has reached, the second has, and what
the first has left out of a window stays out. -/
structure Quantity.Onward (window now later : τ) : Prop where
  reached : ∀ t : τ, t ≤ now → t ≤ later
  outside : ∀ t : τ, later - window < t → now - window < t

namespace Breaker

def Overdue (b : Breaker τ) (now : τ) : Prop := b.phase = .opened ∧ b.openUntil ≤ now

/-- The same breaker, or the other one looked at, but for failures that no longer count. -/
def Seen (now : τ) (b b' : Breaker τ) : Prop :=
  b.prune now = b'.prune now ∨ b.prune now = (b'.look now).2.prune now

structure Blind {α : Type} (now : τ) (f : Breaker τ → α × Breaker τ) : Prop where
  answer : ∀ b, (f (b.prune now)).1 = (f b).1
  state : ∀ b, (f (b.prune now)).2.prune now = (f b).2.prune now
  rule : ∀ b, (f b).2.rule = b.rule

variable {now : τ} {b b' : Breaker τ}

@[simp] theorem pruneTwice (b : Breaker τ) (now : τ) : (b.prune now).prune now = b.prune now := by
  simp only [prune,List.filter_filter]
  congr 1
  exact List.filter_congr fun t _ => Bool.and_self _

theorem lookOverdue (due : b.Overdue now) :
    b.look now = (some ⟨.opened,.halfOpen⟩,{ b with phase := .halfOpen }) := by
  obtain ⟨opened,passed⟩ := due
  rw [look,if_pos ⟨opened,passed⟩,moveTo,if_neg (by simp [opened]),opened]

theorem lookSame (early : ¬ b.Overdue now) : b.look now = (none,b) := if_neg early

theorem lookRule (b : Breaker τ) (now : τ) : (b.look now).2.rule = b.rule := by
  rcases b.lookState now with same | ⟨-,turned⟩
  · rw [same]
  · rw [turned]

theorem lookTwice (b : Breaker τ) (now : τ) : ((b.look now).2.look now).2 = (b.look now).2 := by
  by_cases due : b.Overdue now
  · have again : ¬ ({ b with phase := .halfOpen } : Breaker τ).Overdue now := fun again => nomatch again.1
    rw [lookOverdue due]
    exact (congrArg Prod.snd (lookSame again) :)
  · rw [lookSame due]
    exact congrArg Prod.snd (lookSame due)

theorem lookPrune (b : Breaker τ) (now : τ) : ((b.prune now).look now).2 = (b.look now).2.prune now := by
  by_cases due : b.Overdue now
  · rw [lookOverdue due,lookOverdue (b := b.prune now) due]
    rfl
  · rw [lookSame due,lookSame (b := b.prune now) due]

theorem lookAbandon (b : Breaker τ) (now : τ) : (b.abandon.look now).2 = (b.look now).2.abandon := by
  by_cases due : b.Overdue now
  · rw [lookOverdue due,lookOverdue (b := b.abandon) due]
    rfl
  · rw [lookSame due,lookSame (b := b.abandon) due]

theorem Blind.even {α : Type} {f : Breaker τ → α × Breaker τ} (blind : Blind now f)
    (even : b.prune now = b'.prune now) : (f b).1 = (f b').1 ∧ (f b).2.prune now = (f b').2.prune now := by
  constructor
  · rw [← blind.answer,even,blind.answer]
  · rw [← blind.state,even,blind.state]

theorem seenLook (seen : Seen now b b') : (b.look now).2.prune now = (b'.look now).2.prune now := by
  rcases seen with same | looked
  · rw [← lookPrune,same,lookPrune]
  · rw [← lookPrune,looked,lookPrune,lookTwice]

theorem Seen.looked (seen : Seen now b b') : Seen now (b.look now).2 b' := .inr (seenLook seen)

theorem Seen.pruned (seen : Seen now b b') : Seen now (b.prune now) b' := by
  unfold Seen at *
  rwa [pruneTwice]

theorem Seen.even (seen : Seen now b b') (early : ¬ b'.Overdue now) : b.prune now = b'.prune now := by
  rcases seen with same | looked
  · exact same
  · rwa [lookSame early] at looked

theorem Seen.abandon (seen : Seen now b b') : Seen now b.abandon b'.abandon := by
  rcases seen with same | looked
  · exact .inl (congrArg Breaker.abandon same)
  · refine .inr ?_
    rw [lookAbandon]
    exact congrArg Breaker.abandon looked

theorem Seen.rule (seen : Seen now b b') : b.rule = b'.rule := by
  rcases seen with same | looked
  · exact (congrArg Breaker.rule same :)
  · exact (congrArg Breaker.rule looked :).trans (lookRule b' now)

theorem Seen.cooldown (seen : Seen now b b') : b.cooldown = b'.cooldown := by
  rcases seen with same | looked
  · exact (congrArg Breaker.cooldown same :)
  · exact (congrArg Breaker.cooldown looked :).trans (b'.lookKeeps now).2.1

theorem pruneOnward {later : τ} (onward : Quantity.Onward b.rule.window now later) :
    (b.prune now).prune later = b.prune later := by
  simp only [prune,List.filter_filter]
  congr 1
  refine List.filter_congr fun t _ => ?_
  by_cases inside : later - b.rule.window < t <;> simp [inside,onward.outside t]

theorem Seen.onward {later : τ} (seen : Seen now b b') (onward : Quantity.Onward b'.rule.window now later) :
    Seen later b b' := by
  have carried {x : Breaker τ} (rule : x.rule = b'.rule) (same : b.prune now = x.prune now) :
      b.prune later = x.prune later := by
    have rule' : b.rule = b'.rule := (congrArg Breaker.rule same).trans rule
    rw [← pruneOnward (b := b) (rule' ▸ onward),same,pruneOnward (rule ▸ onward)]
  rcases seen with same | looked
  · exact .inl (carried rfl same)
  · have later' := carried (lookRule b' now) looked
    by_cases due : b'.Overdue now
    · rw [lookOverdue due,← congrArg Prod.snd (lookOverdue (b := b') ⟨due.1,onward.reached _ due.2⟩)] at later'
      exact .inr later'
    · rw [lookSame due] at later'
      exact .inl later'

end Breaker

def Board.told (b : Board τ) : List (String × PhaseChange) := b.changes.filter (fun c => !c.2.expires)

def Line.Upshot.sign : Line.Upshot τ → Sign
  | .brought _ => .answered
  | .ended error => error.sign
  | .again _ _ => .nothing

def Pursuit.sign (service : Service τ) (p : Pursuit) (a : Attempt) : Sign := (Line.upshot service p a).sign

namespace Line

def Upshot.answer (p : Pursuit) : Upshot τ → Except Fault (Progress τ)
  | .brought v => .ok (.done v)
  | .ended error => .error error
  | .again _ delay => .ok (.pause delay { p with attempt := p.attempt + 1 })

def Upshot.shown (now : τ) (b : Breaker τ) : Upshot τ → Breaker τ
  | .brought _ => b.heed now .answered
  | .ended error => b.heed now error.sign
  | .again _ _ => b

theorem followQuiet (now : τ) (p : Pursuit) (u : Upshot τ) {l : Line τ} (quiet : l.Quiet) :
    ∃ l', follow now p u l = (u.answer p,l') ∧
      l'.board.breaker p.endpoint = u.shown now (l.board.breaker p.endpoint) := by
  cases u with
  | brought v =>
    obtain ⟨l',done,-,at'⟩ := successQuiet p.endpoint now quiet
    exact ⟨l',Op.bind_ok done,at'⟩
  | ended error =>
    obtain ⟨l',done,-,at'⟩ := @endWithQuiet τ _ (Progress τ) p.endpoint now error l quiet
    exact ⟨l',done,at'⟩
  | again error delay =>
    cases attached : l.meter with
    | none =>
      refine ⟨l,?_,rfl⟩
      simp only [follow,Op.bind_apply,Op.attempt,metered,attached]
      rfl
    | some m =>
      obtain ⟨m',told,-⟩ := Meter.reportRetry (quiet m attached) p.endpoint (p.attempt + 1) error.label
        (Quantity.toNumber delay)
      refine ⟨{ l with meter := some m' },?_,rfl⟩
      simp only [follow,Op.bind_apply,Op.attempt,metered,attached,told]
      rfl

structure Alike (now : τ) (rule : BreakerRule τ) (even : String → Prop) (l l' : Line τ) : Prop where
  seen : ∀ e, Breaker.Seen now (l.board.breaker e) (l'.board.breaker e)
  even : ∀ e, even e → (l.board.breaker e).prune now = (l'.board.breaker e).prune now
  ruled : ∀ e, (l'.board.breaker e).rule = rule
  told : l.board.told = l'.board.told
  meters : ∃ m m', l.meter = some m ∧ l'.meter = some m' ∧ m.Alike m'

variable {now : τ} {rule : BreakerRule τ} {even : String → Prop} {l l' : Line τ}

theorem Alike.mono {less : String → Prop} (alike : Alike now rule even l l') (fewer : ∀ e, less e → even e) :
    Alike now rule less l l' := { alike with even := fun e mem => alike.even e (fewer e mem) }

theorem Alike.level {later : τ} {level : String → Prop} (alike : Alike now rule even l l') :
    Alike later rule level l l ∧ Alike later rule level l' l' := by
  obtain ⟨m,m',attached,attached',meters⟩ := alike.meters
  exact ⟨⟨fun _ => .inl rfl,fun _ _ => rfl,fun e => (alike.seen e).rule.trans (alike.ruled e),rfl,
      m,m,attached,attached,rfl,meters.willing⟩,
    ⟨fun _ => .inl rfl,fun _ _ => rfl,alike.ruled,rfl,m',m',attached',attached',rfl,meters.willing'⟩⟩

theorem Alike.early {endpoint : String} (alike : Alike now rule even l l')
    (early : ¬ (l'.board.breaker endpoint).Overdue now) : Alike now rule (· = endpoint) l l' := by
  refine { alike with even := ?_ }
  rintro _ rfl
  exact (alike.seen _).even early

theorem Alike.counters {b b' : Board τ} {m m' : Meter τ}
    (alike : Alike now rule even ⟨b,some m⟩ ⟨b',some m'⟩) : m.Alike m' := by
  obtain ⟨m,m',attached,attached',meters⟩ := alike.meters
  cases attached
  cases attached'
  exact meters

theorem Alike.probing {endpoint : String} (alike : Alike now rule (· = endpoint) l l') :
    (l.board.breaker endpoint).probing = (l'.board.breaker endpoint).probing := by
  have level := alike.even endpoint rfl
  exact (congrArg Breaker.probing level :)

theorem turnBreaker {α : Type} (endpoint e : String) (f : Breaker τ → α × Breaker τ) (l : Line τ) :
    (turn endpoint f l).2.board.breaker e =
      if endpoint = e then (f (l.board.breaker e)).2 else l.board.breaker e := by
  simp only [turn,Op.step,Board.breaker,Assoc.get?_put]
  split
  · rename_i same
    subst same
    rfl
  · rfl

section
variable {endpoint : String} (alike : Alike now rule (fun _ => False) l l')
include alike

end

end Line

end ReadThrough
