import ReadThrough.Proofs.Delivery
import ReadThrough.Proofs.Reading

/-! What stands behind a stale answer. A stale read starts a refresh of its key unless one is registered,
and what a refresh brings is written as long as nothing has superseded it. A superseded refresh stays
registered until it ends, and any refresh until it is forgotten then; a read that finds one of these starts
none beside it, and nothing renews what it answers. -/
namespace ReadThrough.Coordinator
open Relation
variable {τ : Type} [Quantity τ]

/-- Data that nothing keeps a task from writing: small enough and clean, with a time to live, where the
limiter has room for the write and the sink takes what it reports. -/
structure Storable (c : Coordinator τ) (now : τ) (t : Task τ) (v : Value) : Prop where
  weighed : ∃ size, c.store.gate.measure v = .ok size
  scanned : c.refusesSensitive = true → c.store.gate.enforce t.key v = .ok ()
  lasting : ¬ t.ttl.getD (c.store.ttlFor t.key) ≤ Quantity.ofInt 0
  room : c.store.limiter.HasRoom now t.key
  takes : c.store.meter.sink.Takes (c.store.entries.size + 1)

/-- The refresh behind a stale answer of the key: the only one, started by the read where there was none,
and else the one there was. What it brings is written while it is current, and it is current exactly if no
superseded one was found. -/
structure Behind (c c' : Coordinator τ) (key : String) (refresh : Option Nat) (n : Nat) (t : Task τ) :
    Prop where
  found : c'.tasks.get? n = some t
  renews : t.Renews key
  only : ∀ m, c'.tasks.Holds m (Task.Renews key) → m = n
  started : (∀ m, ¬ c.tasks.Holds m (Task.Renews key)) → refresh = some n ∧ t.superseded = false
  joined : (∃ m, c.tasks.Holds m (Task.Renews key)) → refresh = none ∧ c.tasks.get? n = some t
  live : t.superseded = false ↔ ∀ m, ¬ c.tasks.Holds m fun t => t.Renews key ∧ t.superseded = true
  writes : ∀ later now v t', (c'.after later).tasks.get? n = some t' → t'.superseded = false →
    t'.pursuit ≠ none → (c'.after later).Storable now t' v →
    ((c'.after later).step now (.advance n (.returned v))).store.entries.get? key =
      some ⟨v,now,t'.ttl.getD ((c'.after later).store.ttlFor key),t'.tags,t'.version,none⟩
  silent : t.superseded = true → ∀ later now s, s.carries = some n →
    ((c'.after later).step now s).store.entries = (c'.after later).store.entries

/-- What a read that answers expired data of the key leaves: one refresh of it is registered, which is under
way unless it was found lingering. -/
structure Renewal (c c' : Coordinator τ) (key : String) (refresh : Option Nat) : Prop where
  registered : c'.isRefreshing key = true
  behind : c.lingering.get? key = none → ∃ n t, Behind c c' key refresh n t
  lingers : ∀ t, c.lingering.get? key = some t → refresh = none ∧ c'.tasks = c.tasks ∧
    ∀ m, ¬ c'.tasks.Holds m (Task.Renews key)
  live : (∃ n, c'.tasks.Holds n fun t => t.Renews key ∧ t.superseded = false) ↔ c.lingering.get? key = none ∧
    ∀ m, ¬ c.tasks.Holds m fun t => t.Renews key ∧ t.superseded = true

variable {c c' : Coordinator τ} {key : String} {n : Nat} {t : Task τ}

theorem Behind.renewal {refresh : Option Nat} (behind : Behind c c' key refresh n t)
    (registered : c'.isRefreshing key = true) (free : c.lingering.get? key = none) : Renewal c c' key refresh where
  registered := registered
  behind _ := ⟨n,t,behind⟩
  lingers t' lingers := by cases free.symm.trans lingers
  live := by
    rw [and_iff_right free,← behind.live]
    refine ⟨?_,fun current => ⟨n,t,behind.found,behind.renews,current⟩⟩
    rintro ⟨m,t',found,renews,current⟩
    cases behind.only m ⟨t',found,renews⟩
    cases behind.found.symm.trans found
    exact current

section
variable (orderly : c.Orderly) (orderly' : c'.Orderly) (admitted : c'.store.gate.admitKey (.str key) = .ok key)
include orderly orderly' admitted

end

def failedCache : Coordinator Number := smallCache.after [
  (.whole 1000,.set (.str "k") (.int 1) brief),(.whole 1002,.fetch "a" (.str "k") openRequest),
  (.whole 1002,.begin 0),(.whole 1002,.advance 0 (.raised (.of (Remote.contract.failure "rejected"))))]

example : (fetch (.whole 1002) "b" (.str "k") openRequest failedCache).1 = .ok (.served (.int 1) none) ∧
    (fetch (.whole 1002) "b" (.str "k") openRequest (failedCache.forget "k")).1 =
      .ok (.served (.int 1) (some 1)) := ⟨rfl,rfl⟩

end ReadThrough.Coordinator
