import Mathlib.Logic.Relation
import ReadThrough.Op

/-! Operations as chains of small changes: whatever an operation answers, the state it leaves is
reached by changes of one kind. A failing operation has made those it made. -/
namespace ReadThrough

theorem exceptBindIff {ε α β : Type} {x : Except ε α} {f : α → Except ε β} {b : β} :
    (x >>= f) = .ok b ↔ ∃ a, x = .ok a ∧ f a = .ok b := by
  cases x <;> simp [bind,Except.bind]

namespace Op
open Relation
variable {σ ρ α β : Type} {r : σ → σ → Prop}

def Moves (r : σ → σ → Prop) (x : Op σ α) : Prop := ∀ s, ReflTransGen r s (x s).2

theorem movesPure (a : α) : Moves r (Pure.pure a : Op σ α) := fun _ => .refl

theorem movesBind {x : Op σ α} {f : α → Op σ β} (first : Moves r x) (rest : ∀ a, Moves r (f a)) :
    Moves r (x >>= f) := by
  intro s
  have start := first s
  rw [bind_apply]
  cases done : x s with
  | mk result s' =>
    rw [done] at start
    cases result with
    | ok a => exact start.trans (rest a s')
    | error e => exact start

theorem movesRead : Moves r (Op.read : Op σ σ) := fun _ => .refl

theorem movesFail (f : Fault) : Moves r (Op.fail f : Op σ α) := fun _ => .refl

theorem movesLift (x : Except Failure α) : Moves r (Op.liftFailure x : Op σ α) := fun _ => .refl

theorem movesChange {f : σ → σ} (small : ∀ s, r s (f s)) : Moves r (Op.change f) :=
  fun s => .single (small s)

theorem movesStep {f : σ → α × σ} (small : ∀ s, r s (f s).2) : Moves r (Op.step f) :=
  fun s => .single (small s)

theorem movesWithin {part : σ → ρ} {put : ρ → σ → σ} {x : Op ρ α}
    (small : ∀ s p, r s (put p s)) : Moves r (Op.within part put x) :=
  fun s => .single (small s (x (part s)).2)

theorem movesSmall {x : Op σ α} (small : ∀ s, r s (x s).2) : Moves r x := fun s => .single (small s)

theorem movesView (view : σ → ρ) {x : Op σ α} (moves : Moves (fun s s' => view s' = view s) x) (s : σ) :
    view (x s).2 = view s := by
  have chain := moves s
  generalize (x s).2 = s' at chain
  induction chain with
  | refl => rfl
  | tail _ same ih => exact same.trans ih

theorem lastState {f : α → Op σ β} (still : ∀ a s, (f a s).2 = s) (x : Op σ α) (s : σ) :
    ((x >>= f) s).2 = (x s).2 := by
  rw [bind_apply]
  rcases x s with ⟨e | a,s'⟩
  · rfl
  · exact still a s'

theorem chainBind {x : Op σ α} {f : α → Op σ β} {s : σ} (first : ReflTransGen r s (x s).2)
    (rest : ∀ a s', x s = (.ok a,s') → ReflTransGen r s' (f a s').2) :
    ReflTransGen r s ((x >>= f) s).2 := by
  rw [bind_apply]
  cases done : x s with
  | mk result s' =>
    rw [done] at first
    cases result with
    | ok a => exact first.trans (rest a s' done)
    | error e => exact first

theorem bindOk {x : Op σ α} {f : α → Op σ β} {s s' : σ} {b : β} (done : (x >>= f) s = (.ok b,s')) :
    ∃ a s₁, x s = (.ok a,s₁) ∧ f a s₁ = (.ok b,s') := by
  rw [bind_apply] at done
  cases first : x s with
  | mk result s₁ =>
    rw [first] at done
    cases result with
    | ok a => exact ⟨a,s₁,rfl,done⟩
    | error e => cases done

theorem liftOk {x : Except Failure α} {s s' : σ} {a : α} (done : Op.liftFailure x s = (.ok a,s')) :
    x = .ok a ∧ s' = s := by
  cases x with
  | error why => cases done
  | ok b => cases done; exact ⟨rfl,rfl⟩

/-! What an operation can fail with. -/

def Blames (P : Fault → Prop) (x : Op σ α) : Prop := ∀ s f, (x s).1 = .error f → P f

variable {P : Fault → Prop}

theorem blamesBind {x : Op σ α} {f : α → Op σ β} (first : Blames P x) (rest : ∀ a, Blames P (f a)) :
    Blames P (x >>= f) := by
  intro s e failed
  rw [bind_apply] at failed
  cases done : x s with
  | mk result s' =>
    rw [done] at failed
    cases result with
    | ok a => exact rest a s' e failed
    | error e' =>
      cases failed
      exact first s _ (congrArg Prod.fst done)

theorem Blames.mono {Q : Fault → Prop} {x : Op σ α} (blames : Blames P x) (wider : ∀ f, P f → Q f) :
    Blames Q x := fun s f failed => wider f (blames s f failed)

theorem blamesPure (a : α) : Blames P (Pure.pure a : Op σ α) := fun _ _ failed => by cases failed

theorem blamesRead : Blames P (Op.read : Op σ σ) := fun _ _ failed => by cases failed

theorem blamesChange (f : σ → σ) : Blames P (Op.change f) := fun _ _ failed => by cases failed

theorem blamesStep (f : σ → α × σ) : Blames P (Op.step f) := fun _ _ failed => by cases failed

theorem blamesFail {e : Fault} (blamed : P e) : Blames P (Op.fail e : Op σ α) := fun _ _ failed => by
  cases failed
  exact blamed

theorem blamesLift {x : Except Failure α} (blamed : ∀ why, x = .error why → P (.of why)) :
    Blames P (Op.liftFailure x : Op σ α) := by
  intro s e failed
  cases x with
  | ok a => cases failed
  | error why =>
    cases failed
    exact blamed why rfl

theorem blamesWithin {part : σ → ρ} {put : ρ → σ → σ} {x : Op ρ α} (inner : Blames P x) :
    Blames P (Op.within part put x) := fun s e failed => inner (part s) e failed

end Op

end ReadThrough
