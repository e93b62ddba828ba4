import ReadThrough.Proofs.Flight

/-! What lasts. A task keeps all that it was opened with, and stays superseded once it is; its number
is never given again. In runs whose tags are tags and whose refreshes are scheduled under stored keys,
every task runs for a stored key and the index of tags agrees with the entries. -/
namespace ReadThrough
open Relation
variable {τ : Type}

def Task.Follows (t' t : Task τ) : Prop :=
  t' = { t with superseded := t'.superseded, pursuit := t'.pursuit } ∧
    (t.superseded = true → t'.superseded = true)

namespace Task.Follows

theorem refl (t : Task τ) : t.Follows t := ⟨rfl,id⟩

theorem trans {t t' t'' : Task τ} (later : t''.Follows t') (first : t'.Follows t) : t''.Follows t := by
  obtain ⟨same,stays⟩ := later
  obtain ⟨same',stays'⟩ := first
  exact ⟨by rw [same,same'],stays ∘ stays'⟩

theorem purpose {t t' : Task τ} (follows : t'.Follows t) : t'.purpose = t.purpose := by rw [follows.1]

theorem key {t t' : Task τ} (follows : t'.Follows t) : t'.key = t.key := by rw [follows.1]

theorem supplier {t t' : Task τ} (follows : t'.Follows t) : t'.supplier = t.supplier := by
  rw [follows.1]

theorem ttl {t t' : Task τ} (follows : t'.Follows t) : t'.ttl = t.ttl := by rw [follows.1]

theorem tags {t t' : Task τ} (follows : t'.Follows t) : t'.tags = t.tags := by rw [follows.1]

theorem version {t t' : Task τ} (follows : t'.Follows t) : t'.version = t.version := by
  rw [follows.1]

end Task.Follows

namespace Coordinator

theorem adjustFollows {m : Assoc Nat (Task τ)} {task n : Nat} {f : Task τ → Task τ}
    (follows : ∀ t, (f t).Follows t) {t' : Task τ} (found : (m.adjust task f).get? n = some t') :
    ∃ t, m.get? n = some t ∧ t'.Follows t := by
  rw [Assoc.getAdjust] at found
  split at found
  · obtain ⟨t,before,rfl⟩ := Option.map_eq_some_iff.mp found
    exact ⟨t,before,follows t⟩
  · exact ⟨t',found,.refl t'⟩

theorem eraseFollows {m : Assoc Nat (Task τ)} {task n : Nat} {t' : Task τ}
    (found : (m.erase task).get? n = some t') : ∃ t, m.get? n = some t ∧ t'.Follows t :=
  ⟨t',Assoc.eraseFound found,.refl t'⟩

theorem putFollows {m : Assoc Nat (Task τ)} {next n : Nat} {t t' : Task τ}
    (found : (m.put next t).get? n = some t') :
    (∃ t, m.get? n = some t ∧ t'.Follows t) ∨ n = next ∧ t' = t := by
  rw [Assoc.get?_put] at found
  split at found
  · rename_i same
    cases found
    exact .inr ⟨same.symm,rfl⟩
  · exact .inl ⟨t',found,.refl t'⟩

theorem Turn.tasks {permit : Permit τ} {c c' : Coordinator τ} (turned : c.Turn permit c') {n : Nat}
    {t' : Task τ} (found : c'.tasks.get? n = some t') :
    (∃ t, c.tasks.get? n = some t ∧ t'.Follows t) ∨ n = c.nextTask ∧ permit.opens t' := by
  cases turned with
  | aside turned =>
    obtain ⟨s,b,q,rfl⟩ := asideFlights (.single turned)
    exact .inl ⟨t',found,.refl t'⟩
  | fetchOpened free fetches current opens calls =>
    rcases putFollows found with old | ⟨new,rfl⟩
    · exact .inl old
    · exact .inr ⟨new,opens⟩
  | fetchJoined flies calls => exact .inl ⟨t',found,.refl t'⟩
  | refreshOpened free refreshes current opens =>
    rcases putFollows found with old | ⟨new,rfl⟩
    · exact .inl old
    · exact .inr ⟨new,opens⟩
  | fetchDetached key =>
    unfold detachFetch at found
    split at found
    · exact .inl (adjustFollows (fun t => ⟨rfl,fun _ => rfl⟩) found)
    · exact .inl ⟨t',found,.refl t'⟩
  | refreshDetached key =>
    unfold detachRefresh at found
    split at found
    · exact .inl (adjustFollows (fun t => ⟨rfl,fun _ => rfl⟩) found)
    · exact .inl ⟨t',found,.refl t'⟩
  | kept p carries =>
    have follows : ∀ t : Task τ, ({ t with pursuit := some p } : Task τ).Follows t := fun _ => ⟨rfl,id⟩
    exact .inl (adjustFollows follows found)
  | fetchEnded r _ fetches carries => exact .inl (eraseFollows found)
  | refreshEnded _ refreshes carries => exact .inl (eraseFollows found)
  | forgotten key => exact .inl ⟨t',found,.refl t'⟩
  | left calls => exact .inl ⟨t',found,.refl t'⟩

theorem chainOpened {permit : Permit τ} {c c' : Coordinator τ} (chain : ReflTransGen (Turn permit) c c')
    {n : Nat} {t' : Task τ} (found : c'.tasks.get? n = some t') :
    ∃ t, (c.tasks.get? n = some t ∨ permit.opens t) ∧ t'.Follows t := by
  induction chain generalizing t' with
  | refl => exact ⟨t',.inl found,.refl t'⟩
  | tail _ turned ih =>
    rcases turned.tasks found with ⟨t₁,before,follows⟩ | ⟨-,opened⟩
    · obtain ⟨t,first,follows'⟩ := ih before
      exact ⟨t,first,follows.trans follows'⟩
    · exact ⟨t',.inr opened,.refl t'⟩

theorem chainTasks {permit : Permit τ} {c c' : Coordinator τ} (chain : ReflTransGen (Turn permit) c c')
    (opens : ∀ t, ¬ permit.opens t) {n : Nat} {t' : Task τ} (found : c'.tasks.get? n = some t') :
    ∃ t, c.tasks.get? n = some t ∧ t'.Follows t := by
  obtain ⟨t,before | opened,follows⟩ := chainOpened chain found
  · exact ⟨t,before,follows⟩
  · exact absurd opened (opens t)

theorem Turn.next {permit : Permit τ} {c c' : Coordinator τ} (turned : c.Turn permit c') :
    c.nextTask ≤ c'.nextTask := by
  cases turned with
  | aside turned =>
    obtain ⟨s,b,q,rfl⟩ := asideFlights (.single turned)
    exact Nat.le_refl _
  | fetchOpened => exact Nat.le_succ _
  | refreshOpened => exact Nat.le_succ _
  | fetchDetached key => unfold detachFetch; split <;> exact Nat.le_refl _
  | refreshDetached key => unfold detachRefresh; split <;> exact Nat.le_refl _
  | _ => exact Nat.le_refl _

/-- Numbers are given once, and what runs under an old number is the old task. -/
structure Onward (c c' : Coordinator τ) : Prop where
  next : c.nextTask ≤ c'.nextTask
  tasks : ∀ n t', n < c.nextTask → c'.tasks.get? n = some t' →
    ∃ t, c.tasks.get? n = some t ∧ t'.Follows t

theorem Onward.refl (c : Coordinator τ) : c.Onward c :=
  ⟨Nat.le_refl _,fun _ t' _ found => ⟨t',found,.refl t'⟩⟩

theorem Onward.trans {c c' c'' : Coordinator τ} (first : c.Onward c') (later : c'.Onward c'') :
    c.Onward c'' := by
  refine ⟨Nat.le_trans first.next later.next,fun n t'' old found => ?_⟩
  obtain ⟨t',found',follows'⟩ := later.tasks n t'' (Nat.lt_of_lt_of_le old first.next) found
  obtain ⟨t,found,follows⟩ := first.tasks n t' old found'
  exact ⟨t,found,follows'.trans follows⟩

theorem chainOnward {permit : Permit τ} {c c' : Coordinator τ}
    (chain : ReflTransGen (Turn permit) c c') : c.Onward c' := by
  induction chain with
  | refl => exact .refl c
  | tail _ turned ih =>
    refine ih.trans ⟨turned.next,fun n t' old found => ?_⟩
    rcases turned.tasks found with before | ⟨new,-⟩
    · exact before
    · omega

theorem afterOnward [Quantity τ] (c : Coordinator τ) (run : List (τ × Step τ)) :
    c.Onward (c.after run) := by
  induction run generalizing c with
  | nil => exact .refl c
  | cons m rest ih => exact (chainOnward (c.stepTurns m.1 m.2)).trans (ih (c.step m.1 m.2))

/-! Sound runs. -/

/-- Tags are tags, and refreshes are scheduled under stored keys. -/
def Step.Proper : Step τ → Prop
  | .set _ _ o => ∃ tags, o.tags = .ok tags
  | .schedule key _ _ _ _ _ => Key.cleaned key = key
  | _ => True

def Step.Keyed : Step τ → Prop
  | .schedule key _ _ _ _ _ => Key.cleaned key = key
  | _ => True

theorem Step.Proper.keyed {s : Step τ} (proper : s.Proper) : s.Keyed := by
  cases s <;> first | exact proper | trivial

def Keyed (c : Coordinator τ) : Prop := ∀ n t, c.tasks.get? n = some t → Key.cleaned t.key = t.key

structure Sound (c : Coordinator τ) : Prop where
  orderly : c.Orderly
  indexed : c.store.Indexed
  keyed : c.Keyed

variable [Quantity τ]

theorem createSound {capacity : Int} {ttlFor : String → τ} {gate : Gate} {limiter : Limiter τ}
    {meter : Meter τ} {store : Store τ} (made : Store.create capacity ttlFor gate limiter meter = .ok store)
    (rule : BreakerRule τ) (service : Service τ) (toleratesStale refusesSensitive : Bool) :
    (create store rule service toleratesStale refusesSensitive).Sound := by
  refine ⟨createOrderly store rule service toleratesStale refusesSensitive,?_,
    fun n t found => by cases found⟩
  obtain rfl := Store.createOk made
  intro tag key
  simp [create,Store.keysForTag]

theorem properPermit {c : Coordinator τ} {now : τ} {s : Step τ} (proper : s.Proper) (key : String) :
    ¬ (c.permit now s).stores (.unlabelled key) := by
  intro unlabels
  cases s with
  | set raw data o =>
    obtain ⟨tags,given⟩ := proper
    obtain ⟨why,bad⟩ := unlabels
    cases given.symm.trans bad
  | advance n a =>
    obtain ⟨t,-,-,data,-,-,why,bad⟩ := unlabels
    cases bad
  | clear => cases unlabels
  | _ => exact unlabels

theorem keyedPermit {c : Coordinator τ} {now : τ} {s : Step τ} (keyed : s.Keyed) {t : Task τ}
    (opens : (c.permit now s).opens t) : Key.cleaned t.key = t.key := by
  cases s with
  | fetch caller raw r =>
    obtain ⟨key,admitted,asks⟩ := opens
    cases asks <;> exact (Key.sanitizeAgain admitted).1
  | schedule key supplier ttl tags version endpoint =>
    obtain ⟨tags,rfl⟩ := opens
    exact keyed
  | _ => exact opens.elim

theorem stepKeyed {c : Coordinator τ} (keyed : c.Keyed) (now : τ) {s : Step τ} (names : s.Keyed) :
    (c.step now s).Keyed := by
  intro n t' found
  obtain ⟨t,before | opens,follows⟩ := chainOpened (c.stepTurns now s) found
  · rw [follows.key]
    exact keyed n t before
  · rw [follows.key]
    exact keyedPermit names opens

theorem afterKeyed {c : Coordinator τ} {run : List (τ × Step τ)} (keyed : c.Keyed) (names : ∀ m ∈ run, m.2.Keyed) :
    (c.after run).Keyed := by
  induction run generalizing c with
  | nil => exact keyed
  | cons m rest ih =>
    exact ih (stepKeyed keyed m.1 (names m List.mem_cons_self)) fun k mem =>
      names k (List.mem_cons_of_mem _ mem)

theorem stepSound {c : Coordinator τ} (sound : c.Sound) (now : τ) {s : Step τ} (proper : s.Proper) :
    (c.step now s).Sound := by
  have chain := c.stepTurns now s
  exact ⟨chainOrderly chain sound.orderly,
    Store.chainIndexed (properPermit proper) (chainStore chain) sound.indexed,
    stepKeyed sound.keyed now proper.keyed⟩

theorem afterSound {c : Coordinator τ} (sound : c.Sound) {run : List (τ × Step τ)}
    (proper : ∀ m ∈ run, m.2.Proper) : (c.after run).Sound := by
  induction run generalizing c with
  | nil => exact sound
  | cons m rest ih =>
    exact ih (stepSound sound m.1 (proper m List.mem_cons_self))
      fun k mem => proper k (List.mem_cons_of_mem _ mem)

end Coordinator

end ReadThrough
