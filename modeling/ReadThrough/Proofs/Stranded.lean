import ReadThrough.Proofs.Delivery
import ReadThrough.Proofs.Freshness
import ReadThrough.Proofs.Reading

/-! Keys that are due. A key leaves the queue when a refresh of it has written, when it is superseded
while a refresh of it is registered, and when the whole queue is cleared. A refresh that comes to nothing
leaves its key queued, and no step looks there for a key without a refresh: what drops the entry of such a
key strands the key, and so does what forgets the refresh of a key whose entry is gone. -/
namespace ReadThrough.Coordinator
open Relation
variable {τ : Type}

/-- Queued, with neither an entry nor a refresh that is registered. -/
structure Ghost (c : Coordinator τ) (key : String) : Prop where
  queued : c.queue.get? key ≠ none
  missing : c.store.entries.get? key = none
  idle : c.isRefreshing key = false

/-- A step that no one takes from outside: stale keys are found and refreshes scheduled by reads alone. -/
def Step.Own : Step τ → Prop
  | .schedule _ _ _ _ _ _ | .markStale _ => False
  | _ => True

theorem Step.Own.keyed {s : Step τ} (own : s.Own) : s.Keyed := by
  cases s <;> trivial

/-! What leaves the refresh of a key registered as it was, and the key queued as it was unless it is
superseded. -/

def Detaches (key : String) (c c' : Coordinator τ) : Prop :=
  c'.isRefreshing key = c.isRefreshing key ∧
    (c'.queue.get? key = c.queue.get? key ∨ c.isRefreshing key = true ∧ c'.queue.get? key = none)

variable {key : String}

theorem Detaches.same {c c' : Coordinator τ} (registered : c'.isRefreshing key = c.isRefreshing key)
    (queued : c'.queue = c.queue) : Detaches key c c' :=
  ⟨registered,.inl (congrArg (·.get? key) queued)⟩

theorem Detaches.trans {c c' c'' : Coordinator τ} (first : Detaches key c c') (later : Detaches key c' c'') :
    Detaches key c c'' := by
  obtain ⟨registered,queued⟩ := first
  obtain ⟨registered',queued'⟩ := later
  refine ⟨registered'.trans registered,?_⟩
  rcases queued' with same | ⟨busy,out⟩
  · rcases queued with same' | ⟨busy,out⟩
    · exact .inl (same.trans same')
    · exact .inr ⟨busy,same.trans out⟩
  · exact .inr ⟨registered ▸ busy,out⟩

theorem chainDetaches {c c' : Coordinator τ} (chain : ReflTransGen (Detaches key) c c') :
    Detaches key c c' := by
  induction chain with
  | refl => exact .same rfl rfl
  | tail _ moved ih => exact ih.trans moved

theorem inStoreDetaches {α : Type} (x : Op (Store τ) α) : Op.Moves (Detaches key) (inStore x) :=
  Op.movesWithin fun _ _ => .same rfl rfl

theorem onLineDetaches {α : Type} (x : Op (Line τ) α) : Op.Moves (Detaches key) (onLine x) :=
  Op.movesWithin fun _ _ => .same rfl rfl

theorem fetchDetaches (c : Coordinator τ) (k : String) : Detaches key c (c.detachFetch k) := by
  unfold detachFetch
  split <;> exact .same rfl rfl

theorem undueDetaches {c c' : Coordinator τ} {k : String} (busy : c.isRefreshing k = true)
    (registered : c'.isRefreshing key = c.isRefreshing key) (queued : c'.queue = c.queue.erase k) :
    Detaches key c c' := by
  refine ⟨registered,?_⟩
  rw [queued,Assoc.get?_erase]
  split
  · rename_i same
    exact .inr ⟨same ▸ busy,rfl⟩
  · exact .inl rfl

theorem refreshDetaches (c : Coordinator τ) (k : String) : Detaches key c (c.detachRefresh k) := by
  unfold detachRefresh
  split
  · rename_i n registered
    exact undueDetaches (by simp [isRefreshing,Assoc.has,registered]) rfl rfl
  · exact .same rfl rfl

theorem unduesDetach {keys : List String} {c : Coordinator τ} (busy : ∀ k ∈ keys, c.isRefreshing k = true) :
    Detaches key c (keys.foldl undue c) := by
  induction keys generalizing c with
  | nil => exact .same rfl rfl
  | cons k rest ih =>
    have first : Detaches key c (c.undue k) := undueDetaches (busy k List.mem_cons_self) rfl rfl
    exact first.trans (ih fun k' later => busy k' (List.mem_cons_of_mem k later))

theorem refreshesDetach (c : Coordinator τ) (p : String → Task τ → Bool) :
    Detaches key c (c.detachRefreshes p).2 := by
  have first : Detaches key c ((c.affected c.refreshing p).foldl detachRefresh c) :=
    chainDetaches (foldChain refreshDetaches (c.affected c.refreshing p) c)
  refine first.trans (unduesDetach fun k ended => ?_)
  obtain ⟨e,listed,rfl⟩ := List.mem_map.mp ended
  obtain ⟨t,lingers⟩ := Assoc.memKeys.mp (List.mem_map_of_mem (f := (·.1)) (List.mem_filter.mp listed).1)
  have kept : ((c.affected c.refreshing p).foldl detachRefresh c).lingering = c.lingering := by
    refine foldKeeps (fun c k => ?_) _ c
    obtain ⟨ts,q,after⟩ := detachRefreshLeaves c k
    rw [after]
  simp [isRefreshing,Assoc.has,kept,lingers]

theorem detachedDetaches {α : Type} (p : String → Task τ → Bool) (q : Coordinator τ → String → Task τ → Bool)
    (x : Op (Store τ) α) : Op.Moves (Detaches key) (do
      Op.change (·.detachFetches p)
      Op.change (fun c => (c.detachRefreshes (q c)).2)
      inStore x) := by
  refine Op.movesBind (fun c => foldChain fetchDetaches (c.affected c.slots p) c) fun _ => ?_
  exact Op.movesBind (fun c => .single (refreshesDetach c (q c))) fun _ => inStoreDetaches x

variable [Quantity τ]

theorem bustDetaches (now : τ) (raw : Value) : Op.Moves (Detaches key) (bust now raw) :=
  Op.movesBind (inStoreDetaches _) fun _ => detachedDetaches _ _ _

theorem mutatedDetaches (now : τ) (tags : List Tag) : Op.Moves (Detaches key) (mutated now tags) :=
  Op.movesBind Op.movesRead fun _ => detachedDetaches _ _ _

theorem setDetaches (now : τ) (raw data : Value) (o : Options τ) :
    Op.Moves (Detaches key) (set now raw data o) := by
  refine Op.movesBind Op.movesRead fun c => ?_
  dsimp only
  split
  · exact Op.movesBind (inStoreDetaches _) fun _ =>
      Op.movesBind (Op.movesLift _) fun _ => inStoreDetaches _
  · exact inStoreDetaches _

/-! A read queues the key whose stale data it answers, and has a refresh of it registered then. -/

omit [Quantity τ] in
theorem markStaleOther (c : Coordinator τ) (now : τ) {k : String} (other : k ≠ key) :
    (c.markStale now k).queue.get? key = c.queue.get? key := by
  unfold markStale
  split
  · rfl
  · exact (Assoc.get?_put _ _ _ _).trans (if_neg other)

theorem readsTend {c : Coordinator τ} {now : τ} {caller k : String} {r : Request τ}
    {x : Except Fault Answer × Coordinator τ} (reads : Reads c now caller k r x) :
    Detaches key c x.2 ∨ x.2.isRefreshing key = true ∧ x.2.store.entries.get? key ≠ none := by
  cases reads with
  | failed | fresh | joined | opened => exact .inl (.same rfl rfl)
  | @behind e l m stored expired counted tolerates registered =>
    have other (apart : k ≠ key) := (c.counted l m).markStaleOther now apart
    obtain ⟨q,queued⟩ := (c.counted l m).markStaleQueues now k
    rw [queued] at other ⊢
    by_cases same : k = key
    · subst same
      exact .inr ⟨registered,Option.ne_none_iff_exists'.mpr ⟨e,stored⟩⟩
    · exact .inl ⟨rfl,.inl (other same)⟩
  | @renewing e l m tags stored expired counted tolerates free =>
    have other (apart : k ≠ key) := (c.counted l m).markStaleOther now apart
    obtain ⟨q,queued⟩ := (c.counted l m).markStaleQueues now k
    rw [queued] at other ⊢
    by_cases same : k = key
    · subst same
      exact .inr ⟨by simp [isRefreshing,Assoc.has,Assoc.get?_put],Option.ne_none_iff_exists'.mpr ⟨e,stored⟩⟩
    · exact .inl ⟨by simp [isRefreshing,Assoc.has,Assoc.get?_put,same,Coordinator.counted],.inl (other same)⟩

theorem fetchTends (key : String) (c : Coordinator τ) (now : τ) (caller : String) (raw : Value)
    (r : Request τ) :
    Detaches key c (fetch now caller raw r c).2 ∨ (fetch now caller raw r c).2.isRefreshing key = true ∧
      (fetch now caller raw r c).2.store.entries.get? key ≠ none := by
  rcases fetchReads now caller raw r c with ⟨f,refused⟩ | ⟨k,-,⟨f,failed,-⟩ | reads⟩
  · rw [refused]
    exact .inl (.same rfl rfl)
  · rw [failed]
    exact .inl (chainDetaches (bustDetaches now (.str k) c))
  · refine (readsTend reads).imp_left fun moved => Detaches.trans ?_ moved
    split
    · exact chainDetaches (bustDetaches now (.str k) c)
    · exact .same rfl rfl

/-! The end of a task. -/

theorem writeResultMoves {r : Coordinator τ → Coordinator τ → Prop}
    (stores : ∀ c s, r c { c with store := s }) (now : τ) (t : Task τ) (v : Value) :
    Op.Moves r (writeResult now t v) := by
  have stored : Op.Moves r (inStore (Store.set now (.str t.key) v ⟨t.ttl,.ok t.tags,t.version,none⟩) >>=
      fun _ => pure ()) := Op.movesBind (Op.movesWithin stores) fun _ => Op.movesPure _
  refine Op.movesBind Op.movesRead fun c => ?_
  dsimp only
  split
  · exact Op.movesBind (Op.movesLift _) fun _ => stored
  · exact stored

theorem writeResultOk {now : τ} {t : Task τ} {v : Value} {c c' : Coordinator τ}
    (keyed : Key.cleaned t.key = t.key) (done : writeResult now t v c = (.ok (),c')) :
    c'.store.entries.get? t.key ≠ none := by
  have stored {c₁ : Coordinator τ} (done : (inStore (Store.set now (.str t.key) v
      ⟨t.ttl,.ok t.tags,t.version,none⟩) >>= fun _ => pure ()) c₁ = (.ok (),c')) :
      c'.store.entries.get? t.key ≠ none := by
    obtain ⟨k,c₂,first,last⟩ := Op.bindOk done
    cases last
    obtain ⟨s,set,rfl⟩ := inStoreOk first
    obtain ⟨admitted,tags,-,found⟩ := Store.setOk set
    obtain ⟨raw,same,-,rfl,-⟩ := Key.sanitizeOk admitted
    cases same
    rw [keyed] at found
    exact Option.ne_none_iff_exists'.mpr ⟨_,found⟩
  obtain ⟨c₁,c₂,read,rest⟩ := Op.bindOk done
  cases read
  dsimp only at rest
  split at rest
  · obtain ⟨_,c₃,-,rest⟩ := Op.bindOk rest
    exact stored rest
  · exact stored rest

theorem completeFetchDetaches (now : τ) (t : Task τ) (v : Value) :
    Op.Moves (Detaches key) (completeFetch now t v) := by
  unfold completeFetch
  split
  · exact Op.movesPure _
  · exact Op.movesBind (writeResultMoves (fun _ _ => .same rfl rfl) now t v) fun _ => Op.movesPure _

structure Settles (c c' : Coordinator τ) (key : String) : Prop where
  registered : c'.refreshing = c.refreshing ∧ c'.lingering = c.lingering
  queue : c'.queue = c.queue ∨ c'.queue = c.queue.erase key ∧ c'.store.entries.get? key ≠ none

theorem completeRefreshSettles (now : τ) {t : Task τ} (keyed : Key.cleaned t.key = t.key) (v : Value)
    (c : Coordinator τ) : Settles c (completeRefresh now t v c).2 t.key := by
  unfold completeRefresh
  split
  · exact ⟨⟨rfl,rfl⟩,.inl rfl⟩
  · have dues := Op.movesView (fun c : Coordinator τ => ((c.refreshing,c.lingering),c.queue))
      (writeResultMoves (fun _ _ => rfl) now t v) c
    obtain ⟨both,queue⟩ := Prod.mk.inj dues
    have registered := Prod.mk.inj both
    cases wrote : writeResult now t v c with
    | mk result c₁ =>
      rw [wrote] at registered queue
      dsimp only at registered queue
      have attempted : Op.attempt (writeResult now t v) c = (.ok result,c₁) := by rw [Op.attempt,wrote]
      rw [Op.bind_ok attempted]
      cases result with
      | error f => exact ⟨registered,.inl queue⟩
      | ok u =>
        have stored := writeResultOk keyed wrote
        exact ⟨registered,.inr ⟨congrArg (·.erase t.key) queue,stored⟩⟩

theorem failRefreshSettles (t : Task τ) (f : Fault) (c : Coordinator τ) :
    Settles c (failRefresh t f c).2 t.key := by
  unfold failRefresh
  split <;> exact ⟨⟨rfl,rfl⟩,.inl rfl⟩

inductive Tended (c c' : Coordinator τ) (s : Step τ) (key : String) : Prop where
  | detached (moved : Detaches key c c')
  | cleared (clears : s = .clear ∨ s = .clearQueue) (empty : c'.queue.get? key = none)
  | marked (registered : c'.isRefreshing key = true) (stored : c'.store.entries.get? key ≠ none)
  | forgotten (forgets : s = .forget key) (after : c' = c.forget key)

omit [Quantity τ] in
theorem endRefreshRegistered {c : Coordinator τ} {n : Nat} {t : Task τ}
    (registered : c.refreshing.get? t.key = some n) (key : String) :
    (c.endRefresh n t).2.isRefreshing key = c.isRefreshing key := by
  by_cases own : t.key = key
  · subst own
    simp [endRefresh,isRefreshing,Assoc.has,Assoc.get?_put,registered]
  · simp [endRefresh,isRefreshing,Assoc.has,Assoc.get?_put,Assoc.get?_erase,registered,own]

omit [Quantity τ] in
theorem refreshTended {c c' : Coordinator τ} {s : Step τ} {n : Nat} {t : Task τ}
    (registered : c.refreshing.get? t.key = some n) (settles : Settles c c' t.key) :
    Tended c (c'.endRefresh n t).2 s key := by
  obtain ⟨⟨running,lingering⟩,queue⟩ := settles
  have busy (k : String) : (c'.endRefresh n t).2.isRefreshing k = c.isRefreshing k := by
    rw [endRefreshRegistered (running ▸ registered),isRefreshing,isRefreshing,running,lingering]
  rcases queue with same | ⟨erased,stored⟩
  · exact .detached (.same (busy key) same)
  · by_cases own : t.key = key
    · subst own
      exact .marked ((busy t.key).trans (by simp [isRefreshing,Assoc.has,registered])) stored
    · refine .detached ⟨busy key,.inl ?_⟩
      have left : (c'.endRefresh n t).2.queue = c.queue.erase t.key := erased
      rw [left,Assoc.get?_erase,if_neg own]

theorem concludeTended {c c₁ : Coordinator τ} (orderly : c.Orderly) (keyed : c.Keyed) {s : Step τ} {n : Nat}
    {t : Task τ} (found : c.tasks.get? n = some t)
    (line : ∃ b m, c₁ = { c with board := b, store := { c.store with meter := m } }) (now : τ)
    (result : Except Fault Value) : Tended c (c₁.conclude now n t result).2 s key := by
  obtain ⟨b,m,rfl⟩ := line
  generalize reached : ({ c with board := b, store := { c.store with meter := m } } : Coordinator τ) = c₁
  have same : Detaches key c c₁ := by
    subst reached
    exact .same rfl rfl
  have settled {c' : Coordinator τ} (settles : Settles c₁ c' t.key) : Settles c c' t.key := by
    subst reached
    obtain ⟨registered,queue⟩ := settles
    exact ⟨registered,queue⟩
  cases purpose : t.purpose with
  | fetch =>
    cases result with
    | error f =>
      simp only [conclude,purpose]
      exact .detached same
    | ok v =>
      have moved : Detaches key c (completeFetch now t v c₁).2 :=
        same.trans (chainDetaches (completeFetchDetaches now t v c₁))
      simp only [conclude,purpose]
      exact .detached moved
  | refresh =>
    have registered := (orderly.refreshing t.key n).mpr ⟨t,found,purpose,rfl⟩
    cases result with
    | error f =>
      simp only [conclude,purpose]
      exact refreshTended registered (settled (failRefreshSettles t f c₁))
    | ok v =>
      simp only [conclude,purpose]
      exact refreshTended registered (settled (completeRefreshSettles now (keyed n t found) v c₁))

theorem beginTended {c : Coordinator τ} (orderly : c.Orderly) (keyed : c.Keyed) (now : τ) (n : Nat) :
    Tended c (c.begin now n).2 (.begin n) key := by
  unfold begin
  split
  · exact .detached (.same rfl rfl)
  · rename_i t found
    cases started : onLine (Line.begin c.service now t.endpoint) c with
    | mk result c₁ =>
      obtain ⟨-,line⟩ := onLineOk started
      cases result with
      | ok p =>
        obtain ⟨b,m,rfl⟩ := line
        exact .detached (.same rfl rfl)
      | error f => exact concludeTended orderly keyed found line now (.error f)

theorem advanceTended {c : Coordinator τ} (orderly : c.Orderly) (keyed : c.Keyed) (now : τ) (n : Nat)
    (a : Attempt) : Tended c (c.advance now n a).2 (.advance n a) key := by
  unfold advance
  split
  · exact .detached (.same rfl rfl)
  · rename_i t found
    split
    · exact concludeTended orderly keyed found ⟨c.board,c.store.meter,rfl⟩ now _
    · rename_i p begun
      cases ran : onLine (Line.advance c.service now p a) c with
      | mk result c₁ =>
        obtain ⟨-,line⟩ := onLineOk ran
        rcases result with f | v | ⟨delay,next⟩
        · exact concludeTended orderly keyed found line now (.error f)
        · exact concludeTended orderly keyed found line now (.ok v)
        · obtain ⟨b,m,rfl⟩ := line
          exact .detached (.same rfl rfl)

theorem stepTended {c : Coordinator τ} (orderly : c.Orderly) (keyed : c.Keyed) (now : τ) {s : Step τ}
    (own : s.Own) : Tended c (c.step now s) s key := by
  have quiet {α : Type} {x : Op (Coordinator τ) α} (moves : Op.Moves (Detaches key) x) :
      Tended c (x c).2 s key := .detached (chainDetaches (moves c))
  cases s with
  | fetch caller raw r =>
    rcases fetchTends key c now caller raw r with moved | ⟨registered,stored⟩
    · exact .detached moved
    · exact .marked registered stored
  | leave caller => exact .detached (.same rfl rfl)
  | begin n => exact beginTended orderly keyed now n
  | advance n a => exact advanceTended orderly keyed now n a
  | get raw => exact quiet (inStoreDetaches _)
  | set raw data o => exact quiet (setDetaches now raw data o)
  | bust raw => exact quiet (bustDetaches now raw)
  | clear =>
    exact .cleared (.inl rfl) rfl
  | mutated tags => exact quiet (mutatedDetaches now tags)
  | mutatedEntity kind id =>
    exact quiet (Op.movesBind (Op.movesLift _) fun _ => mutatedDetaches now _)
  | mutatedKeys matching => exact quiet (detachedDetaches _ _ (Store.sweepKeys now matching))
  | mutatedVersion current => exact quiet (detachedDetaches _ _ (Store.sweepVersion now current))
  | schedule | markStale => exact own.elim
  | clearQueue => exact .cleared (.inr rfl) rfl
  | supersede keys tags => exact .detached (refreshesDetach c _)
  | supersedeVersions current => exact .detached (refreshesDetach c _)
  | forget k =>
    by_cases same : k = key
    · subst same
      exact .forgotten rfl rfl
    · refine .detached (.same ?_ rfl)
      simp [step,forget,isRefreshing,Assoc.has,Assoc.get?_erase,same]
  | onLine x => exact quiet (onLineDetaches x)
  | metered x => exact quiet (inStoreDetaches _)

/-! Strandings. -/

/-- A step strands a key that is queued: it drops the entry and there is no refresh of the key, or it
forgets the refresh and there is no entry. -/
inductive Strands (c : Coordinator τ) (now : τ) (s : Step τ) (key : String) : Prop where
  | dropped (queued : c.queue.get? key ≠ none) (idle : c.isRefreshing key = false)
      (stored : c.store.entries.get? key ≠ none) (gone : (c.step now s).store.entries.get? key = none)
      (spares : s ≠ .clear)
  | forgotten {t : Task τ} (forgets : s = .forget key) (queued : c.queue.get? key ≠ none)
      (lingers : c.lingering.get? key = some t) (missing : c.store.entries.get? key = none)

theorem strandsIff {c : Coordinator τ} (orderly : c.Orderly) (keyed : c.Keyed) (now : τ) {s : Step τ}
    (own : s.Own) : Strands c now s key ↔ ¬ Ghost c key ∧ Ghost (c.step now s) key := by
  have tended := @stepTended τ key _ c orderly keyed now s own
  constructor
  · intro strands
    cases strands with
    | dropped queued idle stored gone spares =>
      refine ⟨fun ghost => stored ghost.missing,?_⟩
      cases tended with
      | detached moved =>
        obtain ⟨registered,same | ⟨busy,-⟩⟩ := moved
        · exact ⟨same ▸ queued,gone,registered.trans idle⟩
        · cases idle.symm.trans busy
      | cleared clears =>
        rcases clears with rfl | rfl
        · exact absurd rfl spares
        · exact absurd gone stored
      | marked registered found => exact absurd gone found
      | forgotten forgets =>
        subst forgets
        exact absurd gone stored
    | @forgotten t forgets queued lingers missing =>
      subst forgets
      refine ⟨fun ghost => ?_,queued,missing,?_⟩
      · cases (isRefreshingIff.mp ghost.idle).2.symm.trans lingers
      · exact isRefreshingIff.mpr ⟨orderly.lingering key t lingers,Assoc.eraseSame c.lingering key⟩
  · rintro ⟨before,queued,gone,idle⟩
    -- the key was queued before, so it is its entry or its refresh that has gone now
    have stored (due : c.queue.get? key ≠ none) (free : c.isRefreshing key = false) :
        c.store.entries.get? key ≠ none := fun missing => before ⟨due,missing,free⟩
    cases tended with
    | detached moved =>
      obtain ⟨registered,same | ⟨-,out⟩⟩ := moved
      · have due := same ▸ queued
        have free := registered.symm.trans idle
        refine .dropped due free (stored due free) gone ?_
        rintro rfl
        exact queued rfl
      · exact absurd out queued
    | cleared _ empty => exact absurd empty queued
    | marked busy => cases idle.symm.trans busy
    | forgotten forgets after =>
      subst forgets
      cases lingers : c.lingering.get? key with
      | some t => exact .forgotten rfl queued lingers gone
      | none => exact absurd ⟨queued,gone,isRefreshingIff.mpr ⟨(isRefreshingIff.mp idle).1,lingers⟩⟩ before

theorem ghostLasts {c : Coordinator τ} (orderly : c.Orderly) (keyed : c.Keyed) (now : τ) {s : Step τ}
    (own : s.Own) (ghost : Ghost c key) : Ghost (c.step now s) key ∨ s = .clear ∨ s = .clearQueue ∨
      (c.step now s).store.entries.get? key ≠ none := by
  by_cases gone : (c.step now s).store.entries.get? key = none
  · have tended := @stepTended τ key _ c orderly keyed now s own
    cases tended with
    | detached moved =>
      obtain ⟨registered,same | ⟨busy,-⟩⟩ := moved
      · exact .inl ⟨same ▸ ghost.queued,gone,registered.trans ghost.idle⟩
      · cases ghost.idle.symm.trans busy
    | cleared clears => exact .inr (clears.imp_right .inl)
    | marked _ stored => exact absurd gone stored
    | forgotten forgets after =>
      rw [after]
      obtain ⟨idle,lingers⟩ := isRefreshingIff.mp ghost.idle
      refine .inl ⟨ghost.queued,ghost.missing,isRefreshingIff.mpr ⟨idle,?_⟩⟩
      exact Assoc.eraseSame c.lingering key
  · exact .inr (.inr (.inr gone))

structure Strandings (c : Coordinator τ) (run : List (τ × Step τ)) : Prop where
  never : (∀ i key, ¬ Ghost (c.upTo run i) key) ↔
    ∀ i m key, run[i]? = some m → ¬ Strands (c.upTo run i) m.1 m.2 key
  arises : ∀ i m key, run[i]? = some m → (Strands (c.upTo run i) m.1 m.2 key ↔
    ¬ Ghost (c.upTo run i) key ∧ Ghost (c.upTo run (i + 1)) key)
  removed : ∀ i m key, run[i]? = some m → (c.upTo run i).store.entries.get? key ≠ none →
    (c.upTo run (i + 1)).store.entries.get? key = none →
    (Ghost (c.upTo run (i + 1)) key ↔ (c.upTo run i).queue.get? key ≠ none ∧
      (c.upTo run i).isRefreshing key = false ∧ m.2 ≠ .clear)
  lasts : ∀ i m key, run[i]? = some m → Ghost (c.upTo run i) key → Ghost (c.upTo run (i + 1)) key ∨
    m.2 = .clear ∨ m.2 = .clearQueue ∨ (c.upTo run (i + 1)).store.entries.get? key ≠ none

theorem ghostsStranded (store : Store τ) (rule : BreakerRule τ) (service : Service τ)
    (toleratesStale refusesSensitive : Bool) {run : List (τ × Step τ)} (own : ∀ m ∈ run, m.2.Own) :
    Strandings (create store rule service toleratesStale refusesSensitive) run := by
  have orderly (i : Nat) : ((create store rule service toleratesStale refusesSensitive).upTo run i).Orderly :=
    upToOrderly (createOrderly store rule service toleratesStale refusesSensitive) i
  have keyed (i : Nat) : ((create store rule service toleratesStale refusesSensitive).upTo run i).Keyed :=
    afterKeyed (fun n t found => by cases found) fun m mem => (own m (List.mem_of_mem_take mem)).keyed
  have start (key : String) : ¬ Ghost (create store rule service toleratesStale refusesSensitive) key :=
    fun ghost => ghost.queued rfl
  generalize create store rule service toleratesStale refusesSensitive = c at orderly keyed start ⊢
  have arises (i : Nat) (m : τ × Step τ) (key : String) (here : run[i]? = some m) :
      Strands (c.upTo run i) m.1 m.2 key ↔
        ¬ Ghost (c.upTo run i) key ∧ Ghost (c.upTo run (i + 1)) key := by
    rw [upToNext here]
    exact strandsIff (orderly i) (keyed i) m.1 (own m (List.mem_of_getElem? here))
  refine ⟨⟨fun none i m key here strands => ?_,fun none i => ?_⟩,arises,?_,?_⟩
  · exact none (i + 1) key ((arises i m key here).mp strands).2
  · -- the first ghost of a run would be the work of a step
    induction i with
    | zero => exact start
    | succ i ih =>
      intro key ghost
      cases here : run[i]? with
      | none =>
        rw [upToEnd here] at ghost
        exact ih key ghost
      | some m => exact none i m key here ((arises i m key here).mpr ⟨ih key,ghost⟩)
  · intro i m key here stored gone
    have before : ¬ Ghost (c.upTo run i) key := fun ghost => stored ghost.missing
    constructor
    · intro ghost
      cases (arises i m key here).mpr ⟨before,ghost⟩ with
      | dropped queued idle _ _ spares => exact ⟨queued,idle,spares⟩
      | forgotten _ _ _ missing => exact absurd missing stored
    · rintro ⟨queued,idle,spares⟩
      refine ((arises i m key here).mp (.dropped queued idle stored ?_ spares)).2
      rw [← upToNext here]
      exact gone
  · intro i m key here ghost
    rw [upToNext here]
    exact ghostLasts (orderly i) (keyed i) m.1 (own m (List.mem_of_getElem? here)) ghost

def strandedRun : List (Number × Step Number) := [
  (.whole 1000,.set (.str "k") (.int 1) brief),(.whole 1002,.fetch "a" (.str "k") openRequest),
  (.whole 1002,.begin 0),(.whole 1002,.advance 0 (.raised (.of (Remote.contract.failure "rejected")))),
  (.whole 1002,.forget "k"),(.whole 1002,.bust (.str "k"))]

theorem bustStrands : (∀ m ∈ strandedRun, m.2.Own) ∧ Ghost (smallCache.upTo strandedRun 6) "k" := by
  have own : ∀ m ∈ strandedRun, m.2.Own := by simp [strandedRun,Step.Own]
  have strandings : Strandings smallCache strandedRun := ghostsStranded smallStore _ _ true false own
  have stored : (smallCache.upTo strandedRun 5).store.entries.get? "k" ≠ none := by decide
  have queued : (smallCache.upTo strandedRun 5).queue.get? "k" ≠ none := by decide
  exact ⟨own,(strandings.removed 5 (.whole 1002,.bust (.str "k")) "k" rfl stored rfl).mpr
    ⟨queued,rfl,nofun⟩⟩

/-- After the bust the key is due still, and nothing is left of it. -/
theorem ghostAfterBust : ((smallCache.upTo strandedRun 5).store.entries.has "k" = true ∧
      strandedRun[5]? = some (.whole 1002,.bust (.str "k"))) ∧
    (smallCache.upTo strandedRun 6).queue.has "k" = true ∧
    (smallCache.upTo strandedRun 6).store.entries.has "k" = false ∧
    (smallCache.upTo strandedRun 6).isRefreshing "k" = false := by
  refine ⟨⟨?_,?_⟩,?_,?_,?_⟩ <;> rfl

end ReadThrough.Coordinator
