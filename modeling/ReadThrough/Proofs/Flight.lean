import ReadThrough.Proofs.Runs

/-! Flights. In every run the slots list the current fetches and the refreshing keys list the
refreshes, each exactly once; a superseded fetch keeps running beside them and gives back nothing but
its own slot. No refresh of a key begins while one that has ended lingers. -/
namespace ReadThrough
open Relation
variable {τ : Type}

namespace Task

def Flies (key : String) (t : Task τ) : Prop :=
  t.purpose = .fetch ∧ t.key = key ∧ t.superseded = false

def Renews (key : String) (t : Task τ) : Prop := t.purpose = .refresh ∧ t.key = key

end Task

namespace Coordinator

structure Orderly (c : Coordinator τ) : Prop where
  numbered : ∀ n t, c.tasks.get? n = some t → n < c.nextTask
  slots : ∀ key n, c.slots.get? key = some n ↔ c.tasks.Holds n (Task.Flies key)
  refreshing : ∀ key n, c.refreshing.get? key = some n ↔ c.tasks.Holds n (Task.Renews key)
  lingering : ∀ key t, c.lingering.get? key = some t → c.refreshing.get? key = none
  waiting : ∀ caller n, c.waiting.get? caller = some n → c.tasks.Holds n (·.purpose = .fetch)
  once : c.slots.Distinct ∧ c.refreshing.Distinct ∧ c.waiting.Distinct

theorem isRefreshingIff {c : Coordinator τ} {key : String} : c.isRefreshing key = false ↔
    c.refreshing.get? key = none ∧ c.lingering.get? key = none := by
  simp [isRefreshing,Assoc.has]

theorem refreshingKeysMem {c : Coordinator τ} {key : String} : key ∈ c.refreshingKeys ↔
    c.isRefreshing key = true := by
  simp [refreshingKeys,isRefreshing,Assoc.has,Assoc.memKeys,Option.isSome_iff_exists]

theorem createOrderly [Quantity τ] (store : Store τ) (rule : BreakerRule τ) (service : Service τ)
    (toleratesStale refusesSensitive : Bool) :
    (create store rule service toleratesStale refusesSensitive).Orderly := by
  refine ⟨?_,?_,?_,?_,?_,Assoc.emptyDistinct,Assoc.emptyDistinct,Assoc.emptyDistinct⟩
  all_goals simp [create,Assoc.Holds]

theorem Orderly.opened {c : Coordinator τ} (orderly : c.Orderly) (t : Task τ) (n : Nat)
    (P : Task τ → Prop) : (c.tasks.put c.nextTask t).Holds n P ↔
      c.nextTask = n ∧ P t ∨ c.tasks.Holds n P := by
  rw [Assoc.holdsPut]
  refine or_congr_right ⟨fun h => h.2,fun old => ⟨?_,old⟩⟩
  rintro rfl
  obtain ⟨t',found,-⟩ := old
  exact Nat.lt_irrefl _ (orderly.numbered _ _ found)

theorem Orderly.openedListed {c : Coordinator τ} (orderly : c.Orderly) {table : Assoc String Nat}
    {claims : String → Task τ → Prop}
    (listed : ∀ key n, table.get? key = some n ↔ c.tasks.Holds n (claims key)) {t : Task τ}
    (free : table.get? t.key = none) (own : ∀ key, claims key t ↔ t.key = key) (key : String) (n : Nat) :
    (table.put t.key c.nextTask).get? key = some n ↔
      (c.tasks.put c.nextTask t).Holds n (claims key) := by
  rw [orderly.opened,Assoc.get?_put,own]
  by_cases same : t.key = key
  · subst same
    rw [if_pos rfl,Option.some.injEq]
    refine ⟨fun new => .inl ⟨new,rfl⟩,fun h => ?_⟩
    rcases h with ⟨new,-⟩ | old
    · exact new
    · rw [(listed _ _).mpr old] at free
      cases free
  · rw [if_neg same,listed]
    refine ⟨.inr,fun h => ?_⟩
    rcases h with ⟨-,mine⟩ | old
    · exact absurd mine same
    · exact old

theorem Orderly.openedNumbered {c : Coordinator τ} (orderly : c.Orderly) {t t' : Task τ} {n : Nat}
    (found : (c.tasks.put c.nextTask t).get? n = some t') : n < c.nextTask + 1 := by
  rw [Assoc.get?_put] at found
  split at found
  · omega
  · exact Nat.lt_succ_of_lt (orderly.numbered n t' found)

theorem Orderly.fetchOpened {c : Coordinator τ} (orderly : c.Orderly) {t : Task τ} (caller : String)
    (free : c.slots.get? t.key = none) (fetches : t.purpose = .fetch) (current : t.superseded = false) :
    { c with tasks := c.tasks.put c.nextTask t, nextTask := c.nextTask + 1,
             slots := c.slots.put t.key c.nextTask,
             waiting := c.waiting.put caller c.nextTask : Coordinator τ }.Orderly where
  numbered _ _ := orderly.openedNumbered
  slots :=
    orderly.openedListed orderly.slots free fun _ => ⟨fun h => h.2.1,fun own => ⟨fetches,own,current⟩⟩
  refreshing key n := by
    rw [orderly.opened,orderly.refreshing]
    simp [Task.Renews,fetches]
  lingering := orderly.lingering
  waiting c' n found := by
    rw [orderly.opened]
    rw [Assoc.get?_put] at found
    split at found
    · cases found
      exact .inl ⟨rfl,fetches⟩
    · exact .inr (orderly.waiting c' n found)
  once := ⟨Assoc.putDistinct orderly.once.1 _ _,orderly.once.2.1,
    Assoc.putDistinct orderly.once.2.2 _ _⟩

theorem Orderly.refreshOpened {c : Coordinator τ} (orderly : c.Orderly) {t : Task τ}
    (free : c.isRefreshing t.key = false) (refreshes : t.purpose = .refresh) :
    { c with tasks := c.tasks.put c.nextTask t, nextTask := c.nextTask + 1,
             refreshing := c.refreshing.put t.key c.nextTask : Coordinator τ }.Orderly where
  numbered _ _ := orderly.openedNumbered
  slots key n := by
    rw [orderly.opened,orderly.slots]
    simp [Task.Flies,refreshes]
  refreshing :=
    orderly.openedListed orderly.refreshing (isRefreshingIff.mp free).1 fun _ =>
      ⟨fun h => h.2,fun own => ⟨refreshes,own⟩⟩
  lingering key t' lingers := by
    have other : t.key ≠ key := by
      rintro rfl
      cases (isRefreshingIff.mp free).2.symm.trans lingers
    exact (Assoc.get?_put _ _ _ _).trans ((if_neg other).trans (orderly.lingering key t' lingers))
  waiting caller n found := (orderly.opened t n _).mpr (.inr (orderly.waiting caller n found))
  once := ⟨orderly.once.1,Assoc.putDistinct orderly.once.2.1 _ _,orderly.once.2.2⟩

theorem Orderly.fetchJoined {c : Coordinator τ} (orderly : c.Orderly) {key : String} {n : Nat}
    (caller : String) (flies : c.slots.get? key = some n) :
    { c with waiting := c.waiting.put caller n : Coordinator τ }.Orderly where
  numbered := orderly.numbered
  slots := orderly.slots
  refreshing := orderly.refreshing
  lingering := orderly.lingering
  waiting c' m found := by
    rw [Assoc.get?_put] at found
    split at found
    · cases found
      obtain ⟨t,found,fetches,-⟩ := (orderly.slots key n).mp flies
      exact ⟨t,found,fetches⟩
    · exact orderly.waiting c' m found
  once := ⟨orderly.once.1,orderly.once.2.1,Assoc.putDistinct orderly.once.2.2 _ _⟩

theorem Orderly.left {c : Coordinator τ} (orderly : c.Orderly) (caller : String) :
    (c.leave caller).2.Orderly where
  numbered := orderly.numbered
  slots := orderly.slots
  refreshing := orderly.refreshing
  lingering := orderly.lingering
  waiting c' n found := by
    simp only [leave,Assoc.get?_erase] at found
    split at found
    · cases found
    · exact orderly.waiting c' n found
  once := ⟨orderly.once.1,orderly.once.2.1,Assoc.eraseDistinct orderly.once.2.2 _⟩

/-! A change of one task in place. -/

theorem adjustedNumbered {c : Coordinator τ} (orderly : c.Orderly) {task n : Nat} {f : Task τ → Task τ}
    {t : Task τ} (found : (c.tasks.adjust task f).get? n = some t) : n < c.nextTask := by
  rw [Assoc.getAdjust] at found
  split at found
  · obtain ⟨t',found',-⟩ := Option.map_eq_some_iff.mp found
    exact orderly.numbered n t' found'
  · exact orderly.numbered n t found

theorem adjustedHolds {m : Assoc Nat (Task τ)} {task n : Nat} {P : Task τ → Prop} (f : Task τ → Task τ)
    (blind : ∀ t, P (f t) ↔ P t) : (m.adjust task f).Holds n P ↔ m.Holds n P := by
  rw [Assoc.holdsAdjust]
  refine exists_congr fun t => and_congr_right fun _ => ?_
  dsimp only
  split
  · exact blind t
  · exact .rfl

theorem supersededFlies {c : Coordinator τ} {task n : Nat} {key : String} :
    (c.supersedeTask task).tasks.Holds n (Task.Flies key) ↔
      n ≠ task ∧ c.tasks.Holds n (Task.Flies key) := by
  rw [supersedeTask,Assoc.holdsAdjust]
  by_cases mine : task = n
  · simp [mine,Task.Flies,Assoc.Holds]
  · simp [mine,Ne.symm mine]

theorem supersededHolds {c : Coordinator τ} {task n : Nat} {P : Task τ → Prop}
    (blind : ∀ t : Task τ, P { t with superseded := true } ↔ P t) :
    (c.supersedeTask task).tasks.Holds n P ↔ c.tasks.Holds n P := adjustedHolds _ blind

theorem pursuedHolds {c : Coordinator τ} {task n : Nat} {p : Pursuit} {P : Task τ → Prop}
    (blind : ∀ t : Task τ, P { t with pursuit := some p } ↔ P t) :
    (c.keepPursuit task p).tasks.Holds n P ↔ c.tasks.Holds n P := adjustedHolds _ blind

theorem Orderly.kept {c : Coordinator τ} (orderly : c.Orderly) (n : Nat) (p : Pursuit) :
    (c.keepPursuit n p).Orderly where
  numbered _ _ := adjustedNumbered orderly
  slots key m := (orderly.slots key m).trans (pursuedHolds fun _ => .rfl).symm
  refreshing key m := (orderly.refreshing key m).trans (pursuedHolds fun _ => .rfl).symm
  lingering := orderly.lingering
  waiting caller m found := (pursuedHolds fun _ => .rfl).mpr (orderly.waiting caller m found)
  once := orderly.once

theorem Orderly.single {c : Coordinator τ} (orderly : c.Orderly) {key : String} {n m : Nat}
    (flies : c.tasks.Holds n (Task.Flies key)) (other : c.tasks.Holds m (Task.Flies key)) : n = m :=
  Option.some.inj (((orderly.slots key n).mpr flies).symm.trans ((orderly.slots key m).mpr other))

theorem Orderly.fetchDetached {c : Coordinator τ} (orderly : c.Orderly) (key : String) :
    (c.detachFetch key).Orderly := by
  unfold detachFetch
  split
  · rename_i task slot
    have flies := (orderly.slots key task).mp slot
    refine ⟨fun _ _ => adjustedNumbered orderly,fun k n => ?_,fun k n => ?_,orderly.lingering,
      fun caller n found => ?_,Assoc.eraseDistinct orderly.once.1 _,orderly.once.2⟩
    · -- the superseded task is the only one that could still claim the freed slot
      refine Iff.trans ?_ supersededFlies.symm
      rw [Assoc.get?_erase]
      by_cases same : key = k
      · subst same
        rw [if_pos rfl]
        exact ⟨fun bad => (by cases bad),fun h => absurd (orderly.single h.2 flies) h.1⟩
      · rw [if_neg same,orderly.slots]
        refine ⟨fun holds => ⟨?_,holds⟩,fun h => h.2⟩
        rintro rfl
        obtain ⟨t,found,-,own,-⟩ := flies
        obtain ⟨t',found',-,other,-⟩ := holds
        cases found.symm.trans found'
        exact same (own.symm.trans other)
    · exact (orderly.refreshing k n).trans (supersededHolds fun _ => .rfl).symm
    · exact (supersededHolds fun _ => .rfl).mpr (orderly.waiting caller n found)
  · exact orderly

theorem Orderly.refreshDetached {c : Coordinator τ} (orderly : c.Orderly) (key : String) :
    (c.detachRefresh key).Orderly := by
  unfold detachRefresh
  split
  · rename_i task registered
    obtain ⟨t,found,refreshes,-⟩ := (orderly.refreshing key task).mp registered
    refine ⟨fun _ _ => adjustedNumbered orderly,fun k n => ?_,fun k n => ?_,orderly.lingering,
      fun caller n found => ?_,orderly.once⟩
    · refine (orderly.slots k n).trans (Iff.trans ⟨fun holds => ⟨?_,holds⟩,fun h => h.2⟩
        supersededFlies.symm)
      rintro rfl
      obtain ⟨t',found',fetches,-⟩ := holds
      cases found.symm.trans found'
      cases refreshes.symm.trans fetches
    · exact (orderly.refreshing k n).trans (supersededHolds fun _ => .rfl).symm
    · exact (supersededHolds fun _ => .rfl).mpr (orderly.waiting caller n found)
  · exact orderly

/-! Ends. -/

theorem endedNumbered {c : Coordinator τ} (orderly : c.Orderly) {n m : Nat} {t : Task τ}
    (found : (c.tasks.erase n).get? m = some t) : m < c.nextTask :=
  orderly.numbered m t (Assoc.eraseFound found)

theorem endedListed {c : Coordinator τ} {table : Assoc String Nat} {claims : String → Task τ → Prop}
    (listed : ∀ key n, table.get? key = some n ↔ c.tasks.Holds n (claims key)) {n : Nat} {t : Task τ}
    (found : c.tasks.get? n = some t) (own : ∀ key, claims key t → t.key = key) (key : String)
    (m : Nat) :
    (if table.get? t.key = some n then table.erase t.key else table).get? key = some m ↔
      (c.tasks.erase n).Holds m (claims key) := by
  have under : ∀ k, table.get? k = some n → k = t.key := by
    intro k slot
    obtain ⟨t',found',mine⟩ := (listed k n).mp slot
    cases found.symm.trans found'
    exact (own k mine).symm
  rw [Assoc.getCleared under,Assoc.holdsErase,listed]
  exact and_comm

theorem endedApart {c : Coordinator τ} {P : Task τ → Prop} {n m : Nat} {t : Task τ}
    (found : c.tasks.get? n = some t) (apart : ¬ P t) :
    c.tasks.Holds m P ↔ (c.tasks.erase n).Holds m P := by
  rw [Assoc.holdsErase]
  refine ⟨fun holds => ⟨?_,holds⟩,fun h => h.2⟩
  rintro rfl
  obtain ⟨t',found',claims⟩ := holds
  cases found.symm.trans found'
  exact apart claims

theorem Orderly.fetchEnded {c : Coordinator τ} (orderly : c.Orderly) {n : Nat} {t : Task τ}
    (r : Except Fault Value) (found : c.tasks.get? n = some t) (fetches : t.purpose = .fetch) :
    (c.endFetch n t r).2.Orderly where
  numbered _ _ := endedNumbered orderly
  slots := endedListed orderly.slots found fun _ claims => claims.2.1
  refreshing key m :=
    (orderly.refreshing key m).trans (endedApart found fun claims => by cases fetches.symm.trans claims.1)
  lingering := orderly.lingering
  waiting caller m waits := by
    have kept := Assoc.getFilter orderly.once.2.2 (· != n) caller
    simp only [endFetch] at waits
    rw [kept,Option.filter_eq_some_iff] at waits
    simp only [endFetch,Assoc.holdsErase]
    exact ⟨by simpa using waits.2,orderly.waiting caller m waits.1⟩
  once := by
    refine ⟨?_,orderly.once.2.1,Assoc.filterDistinct orderly.once.2.2 _⟩
    simp only [endFetch]
    split
    · exact Assoc.eraseDistinct orderly.once.1 _
    · exact orderly.once.1

theorem Orderly.refreshEnded {c : Coordinator τ} (orderly : c.Orderly) {n : Nat} {t : Task τ}
    (found : c.tasks.get? n = some t) (refreshes : t.purpose = .refresh) :
    (c.endRefresh n t).2.Orderly where
  numbered _ _ := endedNumbered orderly
  slots key m :=
    (orderly.slots key m).trans (endedApart found fun claims => by cases refreshes.symm.trans claims.1)
  refreshing := endedListed orderly.refreshing found fun _ claims => claims.2
  lingering key t' lingers := by
    have registered := (orderly.refreshing t.key n).mpr ⟨t,found,refreshes,rfl⟩
    simp only [endRefresh,registered,if_true,Assoc.get?_erase,Assoc.get?_put] at lingers ⊢
    split
    · rfl
    · rename_i other
      exact orderly.lingering key t' (by simpa [other] using lingers)
  waiting caller m waits :=
    (endedApart found fun fetches => by cases refreshes.symm.trans fetches).mp
      (orderly.waiting caller m waits)
  once := by
    refine ⟨orderly.once.1,?_,orderly.once.2.2⟩
    simp only [endRefresh]
    split
    · exact Assoc.eraseDistinct orderly.once.2.1 _
    · exact orderly.once.2.1

theorem Orderly.forgotten {c : Coordinator τ} (orderly : c.Orderly) (key : String) : (c.forget key).Orderly where
  numbered := orderly.numbered
  slots := orderly.slots
  refreshing := orderly.refreshing
  lingering k t lingers := orderly.lingering k t (Assoc.eraseFound lingers)
  waiting := orderly.waiting
  once := orderly.once

/-! Every turn, every step, every run. -/

variable {permit : Permit τ}

theorem Orderly.beside {c : Coordinator τ} (orderly : c.Orderly) (s : Store τ) (b : Board τ) (q : Assoc String τ) :
    { c with store := s, board := b, queue := q : Coordinator τ }.Orderly :=
  ⟨orderly.numbered,orderly.slots,orderly.refreshing,orderly.lingering,orderly.waiting,orderly.once⟩

theorem asideOrderly {may : Store.Piece τ → Prop} {c c' : Coordinator τ}
    (chain : ReflTransGen (Aside may) c c') (orderly : c.Orderly) : c'.Orderly := by
  obtain ⟨s,b,q,rfl⟩ := asideFlights chain
  exact orderly.beside s b q

theorem Turn.orderly {c c' : Coordinator τ} (turned : c.Turn permit c') (orderly : c.Orderly) :
    c'.Orderly := by
  cases turned with
  | aside turned => exact asideOrderly (.single turned) orderly
  | fetchOpened free fetches current _ _ => exact orderly.fetchOpened _ free fetches current
  | fetchJoined flies _ => exact orderly.fetchJoined _ flies
  | refreshOpened free refreshes _ _ => exact orderly.refreshOpened free refreshes
  | fetchDetached key => exact orderly.fetchDetached key
  | refreshDetached key => exact orderly.refreshDetached key
  | kept p _ => exact orderly.kept _ p
  | fetchEnded r found fetches _ => exact orderly.fetchEnded r found fetches
  | refreshEnded found refreshes _ => exact orderly.refreshEnded found refreshes
  | forgotten key => exact orderly.forgotten key
  | left _ => exact orderly.left _

theorem chainOrderly {c c' : Coordinator τ} (chain : ReflTransGen (Turn permit) c c')
    (orderly : c.Orderly) : c'.Orderly := by
  induction chain with
  | refl => exact orderly
  | tail _ turned ih => exact turned.orderly ih

theorem afterOrderly [Quantity τ] {c : Coordinator τ} (orderly : c.Orderly) (run : List (τ × Step τ)) :
    (c.after run).Orderly := by
  induction run generalizing c with
  | nil => exact orderly
  | cons m rest ih => exact ih (chainOrderly (c.stepTurns m.1 m.2) orderly)

end Coordinator

end ReadThrough
