import ReadThrough.Quantity
import ReadThrough.Assoc

/-! A sliding-window limit on the accesses to each key. Refused accesses leave no trace. -/
namespace ReadThrough

/-- `seen` holds the moments of the admitted accesses to each key, oldest first. A ceiling of zero
or less sets no limit. -/
structure Limiter (τ : Type) where
  ceiling : Int
  window : τ
  seen : Assoc String (List τ)
  deriving Repr

namespace Limiter
variable {τ : Type} [Quantity τ]

def create (ceiling : Int) (window : τ) : Limiter τ := ⟨ceiling, window, .empty⟩

def isEnabled (l : Limiter τ) : Bool := 0 < l.ceiling

def recent (l : Limiter τ) (now : τ) (moments : List τ) : List τ :=
  moments.filter (fun t => now - t < l.window)

def check (l : Limiter τ) (now : τ) (key : String) : Bool × Limiter τ :=
  if l.isEnabled then
    let kept := l.recent now ((l.seen.get? key).getD [])
    if l.ceiling ≤ kept.length then (false, { l with seen := l.seen.put key kept })
    else (true, { l with seen := l.seen.put key (kept ++ [now]) })
  else (true, l)

def cleanup (l : Limiter τ) (now : τ) : Nat × Limiter τ :=
  let pruned := l.seen.entries.map (fun e => (e.1, l.recent now e.2))
  let kept := pruned.filter (fun e => !e.2.isEmpty)
  (pruned.length - kept.length, { l with seen := ⟨kept⟩ })

def resetKey (l : Limiter τ) (key : String) : Limiter τ := { l with seen := l.seen.erase key }

def reset (l : Limiter τ) : Limiter τ := { l with seen := .empty }

end Limiter

end ReadThrough
