import ReadThrough.Proofs.Reports
import ReadThrough.Proofs.Tally

/-! One operation from two states. States are alike where they differ in nothing that an operation
answers by; then it answers the same from both and leaves them alike. Meters are alike whose counters are
the same and whose reports differ in nothing but open circuits found half open. -/
namespace ReadThrough

namespace Op
variable {σ ρ α β : Type} {R : σ → σ → Prop}

def Agrees (R : σ → σ → Prop) (x : σ → β × σ) (s s' : σ) : Prop :=
  (x s).1 = (x s').1 ∧ R (x s).2 (x s').2

def Twin (R : σ → σ → Prop) (x : Op σ α) : Prop := ∀ s s', R s s' → Agrees R x s s'

theorem Agrees.mono {Q : σ → σ → Prop} {x : Op σ α} {s s' : σ} (agrees : Agrees R x s s')
    (wider : ∀ t t', R t t' → Q t t') : Agrees Q x s s' := ⟨agrees.1,wider _ _ agrees.2⟩

theorem agreesBind {x : Op σ α} {f : α → Op σ β} {s s' : σ} (first : Agrees R x s s')
    (rest : ∀ a t t', x s = (.ok a,t) → x s' = (.ok a,t') → R t t' → Agrees R (f a) t t') :
    Agrees R (x >>= f) s s' := by
  obtain ⟨same,alike⟩ := first
  unfold Agrees
  rw [bind_apply,bind_apply]
  cases done : x s with
  | mk result t =>
    cases done' : x s' with
    | mk result' t' =>
      rw [done,done'] at same alike
      cases same
      cases result with
      | ok a => exact rest a t t' done done' alike
      | error e => exact ⟨rfl,alike⟩

theorem twinBind {x : Op σ α} {f : α → Op σ β} (first : Twin R x) (rest : ∀ a, Twin R (f a)) :
    Twin R (x >>= f) :=
  fun s s' alike => agreesBind (first s s' alike) fun a t t' _ _ alike' => rest a t t' alike'

theorem twinPure (a : α) : Twin R (Pure.pure a : Op σ α) := fun _ _ alike => ⟨rfl,alike⟩

theorem twinFail (f : Fault) : Twin R (Op.fail f : Op σ α) := fun _ _ alike => ⟨rfl,alike⟩

theorem twinLift (x : Except Failure α) : Twin R (Op.liftFailure x : Op σ α) :=
  fun _ _ alike => ⟨rfl,alike⟩

theorem twinChange {f : σ → σ} (keeps : ∀ s s', R s s' → R (f s) (f s')) : Twin R (Op.change f) :=
  fun s s' alike => ⟨rfl,keeps s s' alike⟩

theorem twinStep {f : σ → α × σ} (keeps : ∀ s s', R s s' → (f s).1 = (f s').1 ∧ R (f s).2 (f s').2) :
    Twin R (Op.step f) :=
  fun s s' alike => ⟨congrArg Except.ok (keeps s s' alike).1,(keeps s s' alike).2⟩

theorem twinRead {f : σ → Op σ α} (same : ∀ s s', R s s' → f s = f s') (each : ∀ s, Twin R (f s)) :
    Twin R (Op.read >>= f) := by
  intro s s' alike
  have both := each s s s' alike
  have read : (Op.read >>= f) s' = f s s' := by rw [same s s' alike]; rfl
  unfold Agrees
  rw [read]
  exact both

theorem twinAttempt {x : Op σ α} (inner : Twin R x) : Twin R (Op.attempt x) :=
  fun s s' alike => ⟨congrArg Except.ok (inner s s' alike).1,(inner s s' alike).2⟩

def Idle (R : σ → σ → Prop) (x : Op σ α) : Prop := ∀ s s', R s s' → R (x s).2 s'

end Op

/-! Meters. -/

def PhaseChange.expires : PhaseChange → Bool
  | ⟨.opened,.halfOpen⟩ => true
  | _ => false

def Event.expires : Event → Bool
  | .circuit _ before after => before == Phase.opened.label && after == Phase.halfOpen.label
  | _ => false

variable {τ : Type} [Quantity τ]

namespace Meter

/-- What a meter shows apart from what it added up for others and the moments of the removals. Open
circuits found half open are not shown. -/
def shown (m : Meter τ) : Meter τ :=
  { m.bare with evicted := [], removed := [], journal := m.journal.filter (fun e => !e.expires) }

structure Alike (m m' : Meter τ) : Prop where
  shown : m.shown = m'.shown
  willing : m.sink ≠ .refusing

theorem Alike.sink {m m' : Meter τ} (alike : m.Alike m') : m.sink.bare = m'.sink.bare :=
  congrArg Meter.sink alike.shown

theorem Alike.willing' {m m' : Meter τ} (alike : m.Alike m') : m'.sink ≠ .refusing := by
  intro refuses
  have sink := alike.sink
  rw [refuses] at sink
  cases kind : m.sink <;> rw [kind] at sink <;> cases sink
  exact alike.willing kind

theorem Alike.change {f g : Meter τ → Meter τ} {m m' : Meter τ} (alike : m.Alike m')
    (shows : ∀ m, (f m).shown = g m.shown) (sink : ∀ m, (f m).sink = m.sink) : (f m).Alike (f m') :=
  ⟨by rw [shows,shows,alike.shown],by rw [sink]; exact alike.willing⟩

end Meter

namespace Store

inductive Alike : Store τ → Store τ → Prop where
  | of (s : Store τ) {m m' : Meter τ} (meters : m.Alike m') :
      Alike { s with meter := m } { s with meter := m' }

end Store

end ReadThrough
