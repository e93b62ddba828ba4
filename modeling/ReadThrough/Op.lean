import ReadThrough.Fault

/-! Operations on a state that may fail. What an operation did to the state before it failed stays
done, so a failing operation answers a state as well. -/
namespace ReadThrough

def Op (σ α : Type) : Type := σ → Except Fault α × σ

namespace Op
variable {σ ρ α β : Type}

def pure (a : α) : Op σ α := fun s => (.ok a, s)

def bind (x : Op σ α) (f : α → Op σ β) : Op σ β := fun s =>
  match x s with
  | (.ok a, s') => f a s'
  | (.error e, s') => (.error e, s')

instance : Monad (Op σ) where
  pure := Op.pure
  bind := Op.bind

def fail (f : Fault) : Op σ α := fun s => (.error f, s)

def refuse (failure : Failure) : Op σ α := fail (.of failure)

def read : Op σ σ := fun s => (.ok s, s)

def write (s : σ) : Op σ Unit := fun _ => (.ok (), s)

def change (f : σ → σ) : Op σ Unit := fun s => (.ok (), f s)

def liftFailure (x : Except Failure α) : Op σ α := fun s => (x.mapError Fault.of, s)

def attempt (x : Op σ α) : Op σ (Except Fault α) := fun s =>
  match x s with
  | (r, s') => (.ok r, s')

def within (part : σ → ρ) (put : ρ → σ → σ) (x : Op ρ α) : Op σ α := fun s =>
  match x (part s) with
  | (r, p) => (r, put p s)

def step (f : σ → α × σ) : Op σ α := fun s => (.ok (f s).1, (f s).2)

@[simp] theorem pure_apply (a : α) (s : σ) : (Pure.pure a : Op σ α) s = (.ok a, s) := rfl

theorem bind_apply (x : Op σ α) (f : α → Op σ β) (s : σ) :
    (x >>= f) s = match x s with
      | (.ok a, s') => f a s'
      | (.error e, s') => (.error e, s') := rfl

theorem bind_ok {x : Op σ α} {f : α → Op σ β} {s s' : σ} {a : α} (h : x s = (.ok a, s')) :
    (x >>= f) s = f a s' := by simp [bind_apply, h]

theorem bind_error {x : Op σ α} {f : α → Op σ β} {s s' : σ} {e : Fault}
    (h : x s = (.error e, s')) : (x >>= f) s = (.error e, s') := by simp [bind_apply, h]

end Op

end ReadThrough
