import ReadThrough.Proofs.Flight

/-! Waiting callers. A miss that finds a current fetch opens nothing and waits for that fetch; whoever
waits is told when the fetch ends, all of them the same, and nobody else is. -/
namespace ReadThrough
open Relation
variable {τ : Type}

def Report.results : Report τ → List (String × Except Fault Value)
  | .finished results => results
  | _ => []

namespace Coordinator
variable [Quantity τ]

def report (c : Coordinator τ) (now : τ) : Step τ → Report τ
  | .begin n => (c.begin now n).1
  | .advance n a => (c.advance now n a).1
  | _ => .finished []

def told (c : Coordinator τ) (now : τ) (s : Step τ) : List (String × Except Fault Value) :=
  (c.report now s).results

/-- A step ends task `n` with a result: those who wait for it are told the result, and nobody else is
told anything. A result that is data is what the call returned. -/
structure Ends (c : Coordinator τ) (now : τ) (s : Step τ) (n : Nat) (r : Except Fault Value) : Prop where
  gone : (c.step now s).tasks.get? n = none
  told : ∀ caller x, (caller,x) ∈ c.told now s ↔ c.waiting.get? caller = some n ∧ x = r
  value : ∀ v, r = .ok v → s = .advance n (.returned v)

/-! A miss. -/

omit [Quantity τ] in
theorem shareWaits {caller key : String} {r : Request τ} {tags : List Tag} {c c' : Coordinator τ} {n : Nat}
    {isNew : Bool} (done : share caller key r tags c = (.ok (.waits n isNew),c')) :
    c'.slots.get? key = some n ∧ c'.waiting.get? caller = some n ∧
      ∀ m, c.slots.get? key = some m → n = m ∧ isNew = false ∧
        c'.tasks = c.tasks ∧ c'.nextTask = c.nextTask := by
  obtain ⟨c₁,c₂,read,rest⟩ := Op.bindOk done
  cases read
  cases found : c.slots.get? key with
  | some m =>
    simp only [found] at rest
    obtain ⟨u,c₁,changed,last⟩ := Op.bindOk rest
    cases changed
    cases last
    refine ⟨found,by simp [Assoc.get?_put],fun m' same => ?_⟩
    cases same
    exact ⟨rfl,rfl,rfl,rfl⟩
  | none =>
    simp only [found] at rest
    obtain ⟨m,c₁,added,rest⟩ := Op.bindOk rest
    obtain ⟨u,c₂,changed,last⟩ := Op.bindOk rest
    cases added
    cases changed
    cases last
    exact ⟨by simp [Assoc.get?_put],by simp [Assoc.get?_put],fun m same => by cases same⟩

theorem tolerantShares {now : τ} {caller key : String} {r : Request τ} {tags : Option (List Tag)}
    {c c' : Coordinator τ} {n : Nat} {isNew : Bool}
    (done : lookUpTolerant now caller key r tags c = (.ok (.waits n isNew),c')) :
    ∃ c₁ given, ReflTransGen (Aside Store.Still) c c₁ ∧
      share caller key r given c₁ = (.ok (.waits n isNew),c') := by
  obtain ⟨found,c₁,read,rest⟩ := Op.bindOk done
  have chain : ReflTransGen (Aside Store.Still) c (readStale now (.str key) c).2 :=
    readStaleChain now (.str key) c
  rw [read] at chain
  cases found with
  | none => exact ⟨c₁,_,chain,rest⟩
  | some l =>
    dsimp only at rest
    split at rest
    · obtain ⟨_,_,-,last⟩ := Op.bindOk rest
      cases last
    · cases rest

theorem missShares {caller key : String} {r : Request τ} {given : List Tag} {c c' : Coordinator τ} {n : Nat}
    {isNew : Bool} (done : (metered (Meter.recordMiss key) >>= fun _ => share caller key r given) c =
      (.ok (.waits n isNew),c')) :
    ∃ c₁ given, ReflTransGen (Aside Store.Still) c c₁ ∧
      share caller key r given c₁ = (.ok (.waits n isNew),c') := by
  obtain ⟨u,c₁,counted,last⟩ := Op.bindOk done
  have chain : ReflTransGen (Aside Store.Still) c (metered (Meter.recordMiss key) c).2 :=
    meteredChain _ c
  rw [counted] at chain
  exact ⟨c₁,given,chain,last⟩

theorem freshShares {now : τ} {caller key : String} {r : Request τ} {tags : Option (List Tag)}
    {c c' : Coordinator τ} {n : Nat} {isNew : Bool}
    (done : lookUpFresh now caller key r tags c = (.ok (.waits n isNew),c')) :
    ∃ c₁ given, ReflTransGen (Aside Store.Still) c c₁ ∧
      share caller key r given c₁ = (.ok (.waits n isNew),c') := by
  obtain ⟨found,c₁,read,rest⟩ := Op.bindOk done
  have chain : ReflTransGen (Aside Store.Still) c (inStore (Store.getEntry now (.str key)) c).2 :=
    inStoreChain (Store.getEntryChain now (.str key) c.store)
  rw [read] at chain
  cases found with
  | none =>
    obtain ⟨c₂,given,more,shared⟩ := missShares rest
    exact ⟨c₂,given,chain.trans more,shared⟩
  | some e =>
    dsimp only at rest
    split at rest
    · obtain ⟨c₂,given,more,shared⟩ := missShares rest
      exact ⟨c₂,given,chain.trans more,shared⟩
    · obtain ⟨_,_,-,last⟩ := Op.bindOk rest
      cases last

theorem lookUpShares {now : τ} {caller key : String} {r : Request τ} {tags : Option (List Tag)}
    {c c' : Coordinator τ} {n : Nat} {isNew : Bool} (done : (do
      if r.useCache then
        if (← Op.read).toleratesStale then lookUpTolerant now caller key r tags
        else lookUpFresh now caller key r tags
      else
        metered (Meter.recordMiss key)
        share caller key r (tags.getD []) : Op (Coordinator τ) Answer) c = (.ok (.waits n isNew),c')) :
    ∃ c₁ given, ReflTransGen (Aside Store.Still) c c₁ ∧
      share caller key r given c₁ = (.ok (.waits n isNew),c') := by
  split at done
  · obtain ⟨c₁,c₂,read,rest⟩ := Op.bindOk done
    cases read
    split at rest
    · exact tolerantShares rest
    · exact freshShares rest
  · exact missShares done

theorem fetchShares {now : τ} {caller key : String} {raw : Value} {r : Request τ} {c c' : Coordinator τ}
    {n : Nat} {isNew : Bool} (admitted : c.store.gate.admitKey raw = .ok key)
    (done : fetch now caller raw r c = (.ok (.waits n isNew),c')) :
    ∃ c₁ given, (r.bustCache = false → ReflTransGen (Aside Store.Still) c c₁) ∧
      share caller key r given c₁ = (.ok (.waits n isNew),c') := by
  rw [fetch,Op.bind_ok (admitKeyPasses admitted)] at done
  rcases requestTagsCases r c with ⟨why,f,-,failed⟩ | ⟨tags,passed⟩
  · rw [Op.bind_error failed] at done
    cases done
  rw [Op.bind_ok passed] at done
  dsimp only at done
  split at done
  · rename_i busts
    obtain ⟨removed,c₁,-,rest⟩ := Op.bindOk done
    obtain ⟨c₂,given,-,shared⟩ := lookUpShares rest
    exact ⟨c₂,given,fun keeps => (by cases keeps.symm.trans busts),shared⟩
  · obtain ⟨c₁,given,chain,shared⟩ := lookUpShares done
    exact ⟨c₁,given,fun _ => chain,shared⟩

/-! Those who wait. -/

theorem carriedCourse {c : Coordinator τ} {now : τ} {s : Step τ} {n : Nat} {t : Task τ}
    (carries : s.carries = some n) (found : c.tasks.get? n = some t) :
    ∃ may brought, Course may brought c n t (c.report now s,c.step now s) ∧
      ∀ v, brought v → s = .advance n (.returned v) := by
  cases s with
  | begin m =>
    cases carries
    exact ⟨_,_,beginCourse found,fun _ bad => bad.elim⟩
  | advance m a =>
    cases carries
    refine ⟨_,_,advanceCourse found,?_⟩
    rintro v rfl
    rfl
  | _ => cases carries

theorem carriedAbsent {c : Coordinator τ} {now : τ} {s : Step τ} {n : Nat} (carries : s.carries = some n)
    (absent : c.tasks.get? n = none) : c.step now s = c ∧ c.told now s = [] := by
  cases s with
  | begin m =>
    cases carries
    simp only [step,told,report,begin,absent,Report.results,and_self]
  | advance m a =>
    cases carries
    simp only [step,told,report,advance,absent,Report.results,and_self]
  | _ => cases carries

omit [Quantity τ] in
theorem turnWaiting {permit : Permit τ} {c c' : Coordinator τ} (turned : c.Turn permit c')
    (orderly : c.Orderly) {caller : String} {n : Nat} (other : ¬ permit.calls caller)
    (apart : ¬ permit.carries n) (waits : c.waiting.get? caller = some n) :
    c'.waiting.get? caller = some n := by
  cases turned with
  | aside turned =>
    obtain ⟨s,b,q,rfl⟩ := asideFlights (.single turned)
    exact waits
  | @fetchOpened t caller' free fetches current opens calls =>
    rw [Assoc.get?_put,if_neg (by rintro rfl; exact other calls)]
    exact waits
  | @fetchJoined key caller' m flies calls =>
    rw [Assoc.get?_put,if_neg (by rintro rfl; exact other calls)]
    exact waits
  | refreshOpened free refreshes current opens => exact waits
  | fetchDetached key => unfold detachFetch; split <;> exact waits
  | refreshDetached key => unfold detachRefresh; split <;> exact waits
  | kept p carries => exact waits
  | @fetchEnded m t r found fetches carries =>
    have kept := Assoc.getFilter orderly.once.2.2 (· != m) caller
    rw [waits,Option.filter_some,if_pos] at kept
    · exact kept
    · simp only [bne_iff_ne]
      rintro rfl
      exact apart carries
  | refreshEnded found refreshes carries => exact waits
  | forgotten key => exact waits
  | @left caller' calls =>
    simp only [leave,Assoc.get?_erase]
    rw [if_neg (by rintro rfl; exact other calls)]
    exact waits

omit [Quantity τ] in
theorem chainWaiting {permit : Permit τ} {c c' : Coordinator τ} (chain : ReflTransGen (Turn permit) c c')
    (orderly : c.Orderly) {caller : String} {n : Nat} (other : ¬ permit.calls caller)
    (apart : ¬ permit.carries n) (waits : c.waiting.get? caller = some n) :
    c'.waiting.get? caller = some n := by
  induction chain with
  | refl => exact waits
  | tail before turned ih => exact turnWaiting turned (chainOrderly before orderly) other apart ih

omit [Quantity τ] in
theorem turnUnmoved {permit : Permit τ} {c c' : Coordinator τ} (turned : c.Turn permit c')
    (orderly : c.Orderly) {caller : String} (other : ¬ permit.calls caller) :
    c'.waiting.get? caller = c.waiting.get? caller ∨ c'.waiting.get? caller = none := by
  cases turned with
  | aside turned =>
    obtain ⟨s,b,q,rfl⟩ := asideFlights (.single turned)
    exact .inl rfl
  | @fetchOpened t caller' free fetches current opens calls =>
    exact .inl ((Assoc.get?_put _ _ _ _).trans (if_neg (by rintro rfl; exact other calls)))
  | @fetchJoined key caller' m flies calls =>
    exact .inl ((Assoc.get?_put _ _ _ _).trans (if_neg (by rintro rfl; exact other calls)))
  | refreshOpened free refreshes current opens => exact .inl rfl
  | fetchDetached key => unfold detachFetch; split <;> exact .inl rfl
  | refreshDetached key => unfold detachRefresh; split <;> exact .inl rfl
  | kept p carries => exact .inl rfl
  | @fetchEnded m t r found fetches carries =>
    have kept := Assoc.getFilter orderly.once.2.2 (· != m) caller
    change (Assoc.get? ⟨_⟩ caller) = _ ∨ Assoc.get? ⟨_⟩ caller = _
    rw [kept]
    cases c.waiting.get? caller with
    | none => exact .inl rfl
    | some n =>
      rw [Option.filter_some]
      split
      · exact .inl rfl
      · exact .inr rfl
  | refreshEnded found refreshes carries => exact .inl rfl
  | forgotten key => exact .inl rfl
  | @left caller' calls =>
    exact .inl ((Assoc.get?_erase _ _ _).trans (if_neg (by rintro rfl; exact other calls)))

theorem stepUnmoved {c : Coordinator τ} (orderly : c.Orderly) (now : τ) {s : Step τ} {caller : String}
    (other : s.caller ≠ some caller) : (c.step now s).waiting.get? caller = c.waiting.get? caller ∨
      (c.step now s).waiting.get? caller = none := by
  have chain := c.stepTurns now s
  generalize c.step now s = c' at chain
  induction chain with
  | refl => exact .inl rfl
  | tail before turned ih =>
    rcases turnUnmoved turned (chainOrderly before orderly) other with same | gone
    · rw [same]
      exact ih
    · exact .inr gone

omit [Quantity τ] in
theorem endFetchTold {c : Coordinator τ} (orderly : c.Orderly) {n : Nat} {t : Task τ}
    {r : Except Fault Value} (caller : String) (x : Except Fault Value) :
    (caller,x) ∈ (c.endFetch n t r).1.results ↔ c.waiting.get? caller = some n ∧ x = r := by
  simp only [endFetch,Report.results,List.mem_map,List.mem_filter,beq_iff_eq,Prod.mk.injEq]
  constructor
  · rintro ⟨e,⟨mem,mine⟩,rfl,rfl⟩
    exact ⟨mine ▸ Assoc.memGet orderly.once.2.2 mem,rfl⟩
  · rintro ⟨waits,rfl⟩
    exact ⟨(caller,n),⟨Assoc.getMem waits,rfl⟩,rfl,rfl⟩

omit [Quantity τ] in
theorem courseWaiting {may : Store.Piece τ → Prop} {brought : Value → Prop} {c c' : Coordinator τ}
    {n m : Nat} {t : Task τ} {report : Report τ} {caller : String} (orderly : c.Orderly)
    (course : Course may brought c n t (report,c')) (waits : c.waiting.get? caller = some m) :
    (c'.waiting.get? caller = some m ∧ ∀ x, (caller,x) ∉ report.results) ∨
      m = n ∧ c'.tasks.get? n = none ∧ ∃ r,
        (∀ caller x, (caller,x) ∈ report.results ↔ c.waiting.get? caller = some n ∧ x = r) ∧
          ∀ v, r = .ok v → brought v := by
  cases course with
  | goesOn p chain unfinished =>
    obtain ⟨s,b,q,rfl⟩ := asideFlights chain
    refine .inl ⟨waits,fun x => ?_⟩
    cases report with
    | finished results => exact absurd rfl (unfinished results)
    | _ => exact List.not_mem_nil
  | fetchEnds r chain fetches brings =>
    have orderly' := asideOrderly chain orderly
    have told := endFetchTold orderly' (n := n) (t := t) (r := r)
    obtain ⟨s,b,q,rfl⟩ := asideFlights chain
    by_cases mine : m = n
    · exact .inr ⟨mine,(Assoc.get?_erase c.tasks n n).trans (if_pos rfl),r,told,brings⟩
    · refine .inl ⟨?_,fun x got => mine (Option.some.inj (waits.symm.trans ((told caller x).mp got).1))⟩
      have kept := Assoc.getFilter orderly.once.2.2 (· != n) caller
      rw [waits,Option.filter_some,if_pos (by simpa using mine)] at kept
      exact kept
  | refreshEnds chain refreshes =>
    obtain ⟨s,b,q,rfl⟩ := asideFlights chain
    exact .inl ⟨waits,fun _ => List.not_mem_nil⟩

theorem stepWaiting {c : Coordinator τ} (orderly : c.Orderly) (now : τ) {s : Step τ} {caller : String}
    {n : Nat} (waits : c.waiting.get? caller = some n) (other : s.caller ≠ some caller) :
    ((c.step now s).waiting.get? caller = some n ∧ ∀ x, (caller,x) ∉ c.told now s) ∨
      ∃ r, c.Ends now s n r := by
  cases carries : s.carries with
  | none =>
    refine .inl ⟨chainWaiting (c.stepTurns now s) orderly other ?_ waits,fun x told => ?_⟩
    · exact fun mine => by cases carries.symm.trans mine
    · cases s <;> first | cases told | cases carries
  | some m =>
    cases found : c.tasks.get? m with
    | none =>
      obtain ⟨same,silent⟩ := carriedAbsent carries found
      rw [same,silent]
      exact .inl ⟨waits,fun _ => List.not_mem_nil⟩
    | some t =>
      obtain ⟨may,brought,course,returned⟩ := carriedCourse carries found
      rcases courseWaiting orderly course waits with still | ⟨rfl,gone,r,told,brings⟩
      · exact .inl still
      · exact .inr ⟨r,gone,told,fun v same => returned v (brings v same)⟩

theorem runWaiting {c : Coordinator τ} (orderly : c.Orderly) {caller : String} {n : Nat}
    {run : List (τ × Step τ)} (waits : c.waiting.get? caller = some n)
    (others : ∀ m ∈ run, m.2.caller ≠ some caller) :
    (c.after run).waiting.get? caller = some n ∨ ∃ before m rest r, run = before ++ m :: rest ∧
      (c.after before).Ends m.1 m.2 n r ∧ (caller,r) ∈ (c.after before).told m.1 m.2 := by
  induction run generalizing c with
  | nil => exact .inl waits
  | cons m rest ih =>
    rcases stepWaiting orderly m.1 waits (others m List.mem_cons_self) with ⟨still,-⟩ | ⟨r,ends⟩
    · have orderly' := chainOrderly (c.stepTurns m.1 m.2) orderly
      rcases ih orderly' still fun k mem => others k (List.mem_cons_of_mem _ mem) with
        later | ⟨before,k,rest',r,split,ended⟩
      · exact .inl later
      · exact .inr ⟨m :: before,k,rest',r,by rw [split]; rfl,ended⟩
    · exact .inr ⟨[],m,rest,r,rfl,ends,(ends.told caller r).mpr ⟨waits,rfl⟩⟩

theorem supersededSlots {c : Coordinator τ} (orderly : c.Orderly) {now : τ} {s : Step τ} {n : Nat}
    (carries : s.carries = some n)
    (superseded : c.tasks.Holds n (fun t => t.purpose = .fetch ∧ t.superseded = true)) :
    (c.step now s).slots = c.slots := by
  obtain ⟨t,found,fetches,old⟩ := superseded
  obtain ⟨may,brought,course,-⟩ := @carriedCourse τ _ c now s n t carries found
  generalize c.report now s = report at course
  generalize c.step now s = c' at course
  cases course with
  | goesOn p chain unfinished =>
    obtain ⟨s,b,q,rfl⟩ := asideFlights chain
    rfl
  | fetchEnds r chain _ brings =>
    obtain ⟨s,b,q,rfl⟩ := asideFlights chain
    refine if_neg fun mine => ?_
    obtain ⟨t',found',-,-,current⟩ := (orderly.slots t.key n).mp mine
    cases found.symm.trans found'
    rw [old] at current
    cases current
  | refreshEnds chain refreshes => cases fetches.symm.trans refreshes

theorem finishedGone {c : Coordinator τ} {now : τ} {s : Step τ} {n : Nat}
    {results : List (String × Except Fault Value)} (carries : s.carries = some n)
    (finished : c.report now s = .finished results) : (c.step now s).tasks.get? n = none := by
  cases found : c.tasks.get? n with
  | none =>
    rw [(carriedAbsent carries found).1]
    exact found
  | some t =>
    obtain ⟨may,brought,course,-⟩ := @carriedCourse τ _ c now s n t carries found
    rw [finished] at course
    generalize reached : (Report.finished results,c.step now s) = x at course
    have after : c.step now s = x.2 := congrArg Prod.snd reached
    have told : Report.finished results = x.1 := congrArg Prod.fst reached
    rw [after]
    cases course with
    | goesOn p chain unfinished => exact absurd told.symm (unfinished results)
    | fetchEnds r chain fetches brings => exact (Assoc.get?_erase _ n n).trans (if_pos rfl)
    | refreshEnds chain refreshes => exact (Assoc.get?_erase _ n n).trans (if_pos rfl)

/-- At a moment of a run: the slots list the current fetches and the refreshing keys the refreshes,
each once; a miss of a key with a current fetch opens nothing and waits for it; who waits is told the
end of the fetch; a task that finished is in neither list, and the end of a superseded fetch takes nobody's
slot. A refresh that lingers stands alone, and its key is free once it is forgotten. -/
structure SingleFlight (c : Coordinator τ) : Prop where
  slots : c.slots.Distinct ∧ ∀ key n, c.slots.get? key = some n ↔ c.tasks.Holds n (Task.Flies key)
  single : ∀ key n m, c.tasks.Holds n (Task.Flies key) → c.tasks.Holds m (Task.Flies key) → n = m
  idle : (∀ n, ¬ c.tasks.Holds n (·.purpose = .fetch)) → c.slots = .empty
  joins : ∀ now caller raw r key n m isNew c', c.store.gate.admitKey raw = .ok key →
    c.slots.get? key = some n → r.bustCache = false →
    fetch now caller raw r c = (.ok (.waits m isNew),c') → m = n ∧ isNew = false ∧
      c'.tasks = c.tasks ∧ c'.nextTask = c.nextTask ∧ c'.waiting.get? caller = some n
  told : ∀ caller n run, c.waiting.get? caller = some n → (∀ m ∈ run, m.2.caller ≠ some caller) →
    (c.after run).waiting.get? caller = some n ∨ ∃ before m rest r, run = before ++ m :: rest ∧
      (c.after before).Ends m.1 m.2 n r ∧ (caller,r) ∈ (c.after before).told m.1 m.2
  successor : ∀ now s n, s.carries = some n →
    c.tasks.Holds n (fun t => t.purpose = .fetch ∧ t.superseded = true) →
    (c.step now s).slots = c.slots
  ended : ∀ now s n results, s.carries = some n → c.report now s = .finished results →
    ∀ key, (c.step now s).slots.get? key ≠ some n ∧ (c.step now s).refreshing.get? key ≠ some n
  refreshing : c.refreshing.Distinct ∧
    ∀ key n, c.refreshing.get? key = some n ↔ c.tasks.Holds n (Task.Renews key)
  lingers : ∀ now key t, c.lingering.get? key = some t → c.isRefreshing key = true ∧
    (∀ n, ¬ c.tasks.Holds n (Task.Renews key)) ∧ (c.step now (.forget key)).isRefreshing key = false

theorem Orderly.flights {c : Coordinator τ} (orderly : c.Orderly) : c.SingleFlight where
  slots := ⟨orderly.once.1,orderly.slots⟩
  single _ _ _ := orderly.single
  idle none := by
    refine Assoc.getEmptyIff.mp fun key => Option.eq_none_iff_forall_ne_some.mpr fun n slot => ?_
    obtain ⟨t,found,fetches,-⟩ := (orderly.slots key n).mp slot
    exact none n ⟨t,found,fetches⟩
  joins now caller raw r key n m isNew c' admitted slot keeps done := by
    obtain ⟨c₁,given,looked,shared⟩ := fetchShares admitted done
    obtain ⟨-,waits,joined⟩ := shareWaits shared
    obtain ⟨s,b,q,rfl⟩ := asideFlights (looked keeps)
    obtain ⟨rfl,old,tasks,next⟩ := joined n slot
    exact ⟨rfl,old,tasks,next,waits⟩
  told _ _ _ waits others := runWaiting orderly waits others
  successor _ _ _ carries superseded := supersededSlots orderly carries superseded
  ended now s n results carries finished key := by
    have gone := finishedGone carries finished
    have orderly' := chainOrderly (c.stepTurns now s) orderly
    refine ⟨fun slot => ?_,fun registered => ?_⟩
    · obtain ⟨t,found,-⟩ := (orderly'.slots key n).mp slot
      cases gone.symm.trans found
    · obtain ⟨t,found,-⟩ := (orderly'.refreshing key n).mp registered
      cases gone.symm.trans found
  refreshing := ⟨orderly.once.2.1,orderly.refreshing⟩
  lingers now key t lingers := by
    have alone := orderly.lingering key t lingers
    refine ⟨by simp [isRefreshing,Assoc.has,lingers],fun n renews => ?_,?_⟩
    · cases alone.symm.trans ((orderly.refreshing key n).mpr renews)
    · exact isRefreshingIff.mpr ⟨alone,(Assoc.get?_erase _ _ _).trans (if_pos rfl)⟩

end Coordinator

end ReadThrough
