import ReadThrough.Proofs.Turns

/-! Runs of a coordinator. A step of a task lets it go on or ends it; it writes only what an attempt
returned, and nothing for a superseded task. So every step is a chain of turns, and what it may open
and write can be told from the step and the state it finds. -/
namespace ReadThrough
open Relation
variable {τ : Type} [Quantity τ]

namespace Line

theorem endWithFails {α : Type} {now : τ} {endpoint : String} {error : Fault} {l l' : Line τ} {a : α} :
    endWith now endpoint error l ≠ (.ok a,l') := by
  intro done
  unfold endWith at done
  split at done
  · obtain ⟨_,_,-,last⟩ := Op.bindOk done
    cases last
  · split at done
    all_goals
      obtain ⟨_,_,-,last⟩ := Op.bindOk done
      cases last

inductive Upshot (τ : Type) where
  | brought (v : Value)
  | ended (error : Fault)
  | again (error : Fault) (delay : τ)

def Upshot.decided : Except Failure (Sequel τ) → Upshot τ
  | .error why => .ended (.of why)
  | .ok (.giveUp error) => .ended error
  | .ok (.again error delay) => .again error delay

def upshot (service : Service τ) (p : Pursuit) : Attempt → Upshot τ
  | .returned v => .brought v
  | .cancelled => .ended (.of .cancelled)
  | .timedOut => afterError Fault.timeUp
  | .raised raw => afterError raw
where
  afterError (raw : Fault) : Upshot τ :=
    .decided (({ service.backoff with retries := p.retries } : Backoff τ).decide service.limit service.draw
      p.attempt raw)

def follow (now : τ) (p : Pursuit) : Upshot τ → Op (Line τ) (Progress τ)
  | .brought v => do
    success p.endpoint
    pure (.done v)
  | .ended error => endWith now p.endpoint error
  | .again error delay => do
    let hook := metered (τ := τ) (Meter.report
      (.retry p.endpoint (p.attempt + 1) error.label (Quantity.toNumber delay)))
    match ← Op.attempt hook with
    | .ok () => pure (.pause delay { p with attempt := p.attempt + 1 })
    | .error e => endWith now p.endpoint e

theorem advanceFollows (service : Service τ) (now : τ) (p : Pursuit) (a : Attempt) :
    advance service now p a = follow now p (upshot service p a) := by
  cases a with
  | returned v => rfl
  | cancelled => rfl
  | timedOut | raised raw =>
    simp only [advance,upshot,upshot.afterError]
    generalize Backoff.decide (τ := τ) _ _ _ _ _ = decided
    rcases decided with why | error | ⟨error,delay⟩ <;> rfl

theorem followDone {now : τ} {p : Pursuit} {u : Upshot τ} {l l' : Line τ} {v : Value}
    (done : follow now p u l = (.ok (.done v),l')) : ∃ w, u = .brought w := by
  cases u with
  | brought w => exact ⟨w,rfl⟩
  | ended error => exact absurd done endWithFails
  | again error delay =>
    obtain ⟨hooked,l₁,-,last⟩ := Op.bindOk done
    cases hooked with
    | ok u => cases last
    | error e => exact absurd last endWithFails

theorem advanceDone {service : Service τ} {now : τ} {p : Pursuit} {a : Attempt} {l l' : Line τ} {v : Value}
    (done : advance service now p a l = (.ok (.done v),l')) : a = .returned v := by
  have unbrought (x : Except Failure (Sequel τ)) (w : Value) : Upshot.decided x ≠ .brought w := by
    rcases x with why | error | ⟨error,delay⟩ <;> nofun
  rw [advanceFollows] at done
  obtain ⟨w,came⟩ := followDone done
  cases a with
  | returned w =>
    obtain ⟨_,_,-,last⟩ := Op.bindOk done
    cases last
    rfl
  | cancelled => cases came
  | timedOut => exact absurd came (unbrought _ w)
  | raised raw => exact absurd came (unbrought _ w)

end Line

namespace Coordinator

/-! The course of a task. -/

def Leaves (c : Coordinator τ) (now : τ) (t : Task τ) (brought : Value → Prop) (p : Store.Piece τ) :
    Prop :=
  t.superseded = false ∧ ∃ data, brought data ∧
    (c.refusesSensitive = true → c.store.gate.enforce t.key data = .ok ()) ∧
    Store.Writes c.store.gate c.store.ttlFor now (.str t.key) data
      ⟨t.ttl,.ok t.tags,t.version,none⟩ p

inductive Course (may : Store.Piece τ → Prop) (brought : Value → Prop) (c : Coordinator τ) (n : Nat)
    (t : Task τ) : Report τ × Coordinator τ → Prop where
  | goesOn {c' : Coordinator τ} {report : Report τ} (p : Pursuit)
      (chain : ReflTransGen (Aside may) c c') (unfinished : ∀ results, report ≠ .finished results) :
      Course may brought c n t (report,c'.keepPursuit n p)
  | fetchEnds {c' : Coordinator τ} (r : Except Fault Value) (chain : ReflTransGen (Aside may) c c')
      (fetches : t.purpose = .fetch) (brings : ∀ v, r = .ok v → brought v) :
      Course may brought c n t (c'.endFetch n t r)
  | refreshEnds {c' : Coordinator τ} (chain : ReflTransGen (Aside may) c c')
      (refreshes : t.purpose = .refresh) : Course may brought c n t (c'.endRefresh n t)

omit [Quantity τ] in
theorem Course.behind {may : Store.Piece τ → Prop} {brought : Value → Prop} {c c₁ : Coordinator τ}
    {n : Nat} {t : Task τ} {x : Report τ × Coordinator τ} (before : ReflTransGen (Aside may) c c₁)
    (course : Course may brought c₁ n t x) : Course may brought c n t x := by
  cases course with
  | goesOn p chain unfinished => exact .goesOn p (before.trans chain) unfinished
  | fetchEnds r chain fetches brings => exact .fetchEnds r (before.trans chain) fetches brings
  | refreshEnds chain refreshes => exact .refreshEnds (before.trans chain) refreshes

theorem writeResultChain {c : Coordinator τ} {now : τ} {t : Task τ} {data : Value}
    {brought : Value → Prop} (current : t.superseded = false) (brings : brought data) :
    ReflTransGen (Aside (c.Leaves now t brought)) c (writeResult now t data c).2 := by
  have stored (scanned : c.refusesSensitive = true → c.store.gate.enforce t.key data = .ok ()) :
      ReflTransGen (Aside (c.Leaves now t brought)) c ((do
        let _ ← inStore (Store.set now (.str t.key) data ⟨t.ttl,.ok t.tags,t.version,none⟩) :
        Op (Coordinator τ) Unit) c).2 := by
    refine Op.chainBind (inStoreChain (Store.chainMono ?_ (Store.setChain now _ data _ c.store)))
      fun _ _ _ => .refl
    exact fun p writes => ⟨current,data,brings,scanned,writes⟩
  unfold writeResult
  refine Op.chainBind .refl fun c₁ c₂ read => ?_
  cases read
  dsimp only
  split
  · refine Op.chainBind (Op.movesLift _ _) fun u c' passed => ?_
    obtain ⟨scanned,rfl⟩ := Op.liftOk passed
    exact stored fun _ => scanned
  · rename_i lax
    exact stored fun strict => absurd strict lax

theorem concludeCourse {c : Coordinator τ} {now : τ} {n : Nat} {t : Task τ} {result : Except Fault Value}
    {brought : Value → Prop} (brings : ∀ v, result = .ok v → brought v) :
    Course (c.Leaves now t brought) brought c n t (c.conclude now n t result) := by
  unfold conclude
  cases purpose : t.purpose with
  | fetch =>
    cases result with
    | error e => exact .fetchEnds (.error e) .refl purpose fun _ bad => by cases bad
    | ok data =>
      dsimp only
      cases done : completeFetch now t data c with
      | mk r c' =>
        unfold completeFetch at done
        split at done
        · cases done
          exact .fetchEnds _ .refl purpose brings
        · rename_i current
          have chain : ReflTransGen (Aside (c.Leaves now t brought)) c
              ((writeResult now t data >>= fun _ => pure data) c).2 :=
            Op.chainBind (writeResultChain (by simpa using current) (brings data rfl)) fun _ _ _ => .refl
          rw [done] at chain
          refine .fetchEnds r chain purpose fun v same => ?_
          subst same
          obtain ⟨_,_,-,last⟩ := Op.bindOk done
          cases last
          exact brings data rfl
  | refresh =>
    cases result with
    | error e =>
      refine .refreshEnds ?_ purpose
      unfold failRefresh
      split
      · exact .refl
      · exact meteredChain _ c
    | ok data =>
      refine .refreshEnds ?_ purpose
      unfold completeRefresh
      split
      · exact .refl
      · rename_i current
        refine Op.chainBind ?_ fun written c' _ => ?_
        · exact writeResultChain (by simpa using current) (brings data rfl)
        · cases written with
          | ok u => exact Op.movesBind (Op.movesChange fun _ => .undue t.key) (fun _ => meteredChain _) c'
          | error e => exact meteredChain _ c'

theorem concludeBehind {c c₁ : Coordinator τ} {now : τ} {n : Nat} {t : Task τ} {result : Except Fault Value}
    {brought : Value → Prop}
    (line : ∃ b m, c₁ = { c with board := b, store := { c.store with meter := m } })
    (brings : ∀ v, result = .ok v → brought v) :
    Course (c.Leaves now t brought) brought c n t (c₁.conclude now n t result) := by
  -- board and counters are no part of what a task may store
  obtain ⟨b,m,rfl⟩ := line
  have ended := @concludeCourse τ _ { c with board := b, store := { c.store with meter := m } } now n t
    result brought brings
  exact Course.behind (.single (.line b m)) ended

theorem beginCourse {c : Coordinator τ} {now : τ} {n : Nat} {t : Task τ}
    (found : c.tasks.get? n = some t) :
    Course (c.Leaves now t fun _ => False) (fun _ => False) c n t (c.begin now n) := by
  simp only [begin,found]
  cases started : onLine (Line.begin c.service now t.endpoint) c with
  | mk result c₁ =>
    obtain ⟨-,line⟩ := onLineOk started
    cases result with
    | ok p =>
      obtain ⟨b,m,rfl⟩ := line
      exact .goesOn p (.single (.line b m)) fun _ ended => by cases ended
    | error e => exact concludeBehind line fun _ bad => by cases bad

theorem advanceCourse {c : Coordinator τ} {now : τ} {n : Nat} {t : Task τ} {a : Attempt}
    (found : c.tasks.get? n = some t) :
    Course (c.Leaves now t (a = .returned ·)) (a = .returned ·) c n t (c.advance now n a) := by
  simp only [advance,found]
  cases t.pursuit with
  | none => exact concludeCourse fun _ bad => by cases bad
  | some p =>
    dsimp only
    cases ran : onLine (Line.advance c.service now p a) c with
    | mk result c₁ =>
      obtain ⟨⟨l,carried⟩,line⟩ := onLineOk ran
      cases result with
      | error e => exact concludeBehind line fun _ bad => by cases bad
      | ok progress =>
        cases progress with
        | done v =>
          refine concludeBehind line fun w same => ?_
          cases same
          exact Line.advanceDone carried
        | pause delay next =>
          obtain ⟨b,m,rfl⟩ := line
          exact .goesOn next (.single (.line b m)) fun _ ended => by cases ended

/-! Steps and runs. -/

def step (c : Coordinator τ) (now : τ) : Step τ → Coordinator τ
  | .fetch caller raw r => (fetch now caller raw r c).2
  | .leave caller => (c.leave caller).2
  | .begin n => (c.begin now n).2
  | .advance n a => (c.advance now n a).2
  | .get raw => (inStore (Store.get now raw) c).2
  | .set raw data o => (set now raw data o c).2
  | .bust raw => (bust now raw c).2
  | .clear => (clear now c).2
  | .mutated tags => (mutated now tags c).2
  | .mutatedEntity kind id => (mutatedEntity now kind id c).2
  | .mutatedKeys matching => (mutatedKeys now matching c).2
  | .mutatedVersion current => (mutatedVersion now current c).2
  | .schedule key supplier ttl tags version endpoint =>
    (schedule now key supplier ttl tags version endpoint c).2
  | .markStale key => c.markStale now key
  | .clearQueue => c.clearQueue
  | .supersede keys tags => (c.supersede keys tags).2
  | .supersedeVersions current => (c.supersedeVersions current).2
  | .forget key => c.forget key
  | .onLine x => (onLine x c).2
  | .metered x => (metered x c).2

def after (c : Coordinator τ) (run : List (τ × Step τ)) : Coordinator τ :=
  run.foldl (fun c m => c.step m.1 m.2) c

theorem afterAppend (c : Coordinator τ) (first later : List (τ × Step τ)) :
    c.after (first ++ later) = (c.after first).after later := List.foldl_append

def Step.carries : Step τ → Option Nat
  | .begin n | .advance n _ => some n
  | _ => none

def Step.caller : Step τ → Option String
  | .fetch caller _ _ | .leave caller => some caller
  | _ => none

def Opens (c : Coordinator τ) : Step τ → Task τ → Prop
  | .fetch _ raw r, t => ∃ key, c.store.gate.admitKey raw = .ok key ∧ c.Asks r key t
  | .schedule key supplier ttl _ version endpoint, t =>
    ∃ tags, t = ⟨.refresh,key,supplier,ttl,tags,version,endpoint,false,none⟩
  | _, _ => False

def Stores (c : Coordinator τ) (now : τ) : Step τ → Store.Piece τ → Prop
  | .set raw data o => Store.Writes c.store.gate c.store.ttlFor now raw data o
  | .advance n a => fun p => ∃ t, c.tasks.get? n = some t ∧ c.Leaves now t (a = .returned ·) p
  | .clear => (· = .emptied)
  | .fetch _ _ _ | .bust _ | .mutated _ | .mutatedEntity _ _ | .mutatedKeys _ | .mutatedVersion _ =>
    Store.Removals
  | _ => Store.Still

def permit (c : Coordinator τ) (now : τ) (s : Step τ) : Permit τ :=
  ⟨c.Opens s,(s.carries = some ·),(s.caller = some ·),c.Stores now s⟩

omit [Quantity τ] in
theorem courseTurns {permit : Permit τ} {may : Store.Piece τ → Prop} {brought : Value → Prop}
    {c : Coordinator τ} {n : Nat} {t : Task τ} {x : Report τ × Coordinator τ}
    (found : c.tasks.get? n = some t) (course : Course may brought c n t x)
    (carries : permit.carries n) (wider : ∀ p, may p → permit.stores p) :
    ReflTransGen (Turn permit) c x.2 := by
  cases course with
  | goesOn p chain unfinished => exact (asideTurns (asideMono wider chain)).tail (.kept p carries)
  | fetchEnds r chain fetches brings =>
    obtain ⟨s,b,q,rfl⟩ := asideFlights chain
    exact (asideTurns (asideMono wider chain)).tail (.fetchEnded r found fetches carries)
  | refreshEnds chain refreshes =>
    obtain ⟨s,b,q,rfl⟩ := asideFlights chain
    exact (asideTurns (asideMono wider chain)).tail (.refreshEnded found refreshes carries)

theorem setScreened (c : Coordinator τ) (now : τ) (raw data : Value) (o : Options τ) :
    ReflTransGen (Aside fun p => (c.refusesSensitive = true → ∀ key,
      c.store.gate.admitKey raw = .ok key → c.store.gate.enforce key data = .ok ()) ∧
        Store.Writes c.store.gate c.store.ttlFor now raw data o p) c (set now raw data o c).2 := by
  have stored (scanned : c.refusesSensitive = true → ∀ key, c.store.gate.admitKey raw = .ok key →
      c.store.gate.enforce key data = .ok ()) := inStoreChain (c := c)
    (Store.chainMono (fun _ writes => And.intro scanned writes) (Store.setChain now raw data o c.store))
  unfold set
  refine Op.chainBind .refl fun c₁ c₂ read => ?_
  cases read
  dsimp only
  split
  · refine Op.chainBind (inStoreChain (Store.admitChain raw c.store)) fun key c₁ admitted => ?_
    obtain ⟨s,first,rfl⟩ := inStoreOk admitted
    obtain ⟨mine,rfl⟩ := Store.admitKeyOk first
    refine Op.chainBind (Op.movesLift _ _) fun u c₁ passed => ?_
    obtain ⟨scanned,rfl⟩ := Op.liftOk passed
    refine stored fun _ k same => ?_
    cases mine.symm.trans same
    exact scanned
  · rename_i lax
    exact stored fun strict => absurd strict lax

theorem setChain (c : Coordinator τ) (now : τ) (raw data : Value) (o : Options τ) :
    ReflTransGen (Aside (Store.Writes c.store.gate c.store.ttlFor now raw data o)) c
      (set now raw data o c).2 := asideMono (fun _ passed => passed.2) (setScreened c now raw data o)

theorem stepTurns (c : Coordinator τ) (now : τ) (s : Step τ) :
    ReflTransGen (Turn (c.permit now s)) c (c.step now s) := by
  cases s with
  | fetch caller raw r =>
    cases admitted : c.store.gate.admitKey raw with
    | error why => rw [step,fetch,Op.bind_error (admitKeyRefuses admitted)]
    | ok key =>
      have opens : ∀ t, c.Asks r key t → c.Opens (.fetch caller raw r) t :=
        fun t asks => ⟨key,admitted,asks⟩
      rcases @fetchAfter τ (c.permit now (.fetch caller raw r)) _ now caller key r c opens rfl raw
        admitted with ⟨same,-⟩ | chain
      · rw [step,same]
      · split at chain
        · exact (bustChain (fun _ removal => removal) now (.str key) c).trans chain
        · exact chain
  | leave caller => exact .single (.left rfl)
  | begin n =>
    cases found : c.tasks.get? n with
    | none => simp only [step,begin,found]; exact .refl
    | some t =>
      exact courseTurns found (beginCourse found) rfl fun p stores => stores.2.elim fun _ h => h.1
  | advance n a =>
    cases found : c.tasks.get? n with
    | none => simp only [step,advance,found]; exact .refl
    | some t => exact courseTurns found (advanceCourse found) rfl fun p stores => ⟨t,found,stores⟩
  | get raw => exact asideTurns (inStoreChain (Store.getChain now raw c.store))
  | set raw data o => exact asideTurns (setChain c now raw data o)
  | bust raw => exact bustChain (fun _ removal => removal) now raw c
  | clear => exact clearChain rfl now c
  | mutated tags => exact mutatedChain (fun _ removal => removal) now tags c
  | mutatedEntity kind id => exact mutatedEntityChain (fun _ removal => removal) now kind id c
  | mutatedKeys matching => exact mutatedKeysChain (fun _ removal => removal) now matching c
  | mutatedVersion current => exact mutatedVersionChain (fun _ removal => removal) now current c
  | schedule key supplier ttl tags version endpoint =>
    refine scheduleChain (fun tags => ?_) c
    exact ⟨tags,rfl⟩
  | markStale key => exact .single (.aside (.due now key))
  | clearQueue => exact .single (.aside .queueCleared)
  | supersede keys tags => exact detachRefreshesChain c _
  | supersedeVersions current => exact detachRefreshesChain c _
  | forget key => exact .single (.forgotten key)
  | onLine x => exact asideTurns (onLineChain x c)
  | metered x => exact asideTurns (meteredChain x c)

end Coordinator

end ReadThrough
