import ReadThrough.Proofs.Tally
import ReadThrough.Proofs.Delivery

/-! Failures. A fetch or refresh fails because the circuit lets no call through, because its call fails,
or because its data is not written. Whichever it is, entries and index stay as they were; those who wait
are told the error, and the slot is free again unless it is another's; a key that was to be refreshed
stays due, and one failure is counted. -/
namespace ReadThrough
variable {τ : Type} [Quantity τ]

namespace Gate

theorem admitAlive {g : Gate} {raw : Value} {why : Failure} (refused : g.admitKey raw = .error why) :
    (Fault.of why).isCancelled = false := by
  unfold admitKey Key.sanitize at refused
  split at refused
  · split at refused
    · cases refused
      rfl
    · dsimp only at refused
      split at refused <;> cases refused
      rfl
  · cases refused
    rfl

theorem measureAlive {g : Gate} {v : Value} {why : Failure} (refused : g.measure v = .error why) :
    (Fault.of why).isCancelled = false := by
  unfold measure at refused
  split at refused
  · cases refused
    rfl
  · split at refused <;> cases refused
    rfl

theorem enforceAlive {g : Gate} {key : String} {v : Value} {why : Failure}
    (refused : g.enforce key v = .error why) : (Fault.of why).isCancelled = false := by
  unfold enforce at refused
  split at refused <;> cases refused
  rfl

end Gate

namespace Store

theorem landBlames (now : τ) (key : String) (ttl : τ) (data : Value) {o : Options τ} {tags : List Tag}
    (tagged : o.tags = .ok tags) : Op.Blames Fault.OfSink (land now key ttl data o) := by
  refine Op.blamesBind (makeRoomBlames now key) fun _ => Op.blamesBind (Op.blamesChange _) fun _ => ?_
  refine Op.blamesBind (Op.blamesLift fun why bad => ?_) fun tags => ?_
  · cases tagged.symm.trans bad
  · exact Op.blamesBind (Op.blamesChange _) fun _ =>
      Op.blamesBind reportSizeBlames fun _ => Op.blamesPure _

theorem setFails {now : τ} {raw data : Value} {o : Options τ} {tags : List Tag} {s s' : Store τ} {f : Fault}
    (tagged : o.tags = .ok tags) (failed : set now raw data o s = (.error f,s'))
    (takes : s.meter.sink.Takes (s.entries.size + 1) ∨ ¬ f.OfSink) :
    s'.entries = s.entries ∧ s'.tagged = s.tagged := by
  rcases setCases now raw data o s with ⟨e,l,early⟩ | ⟨key,l,late⟩
  · cases early.symm.trans failed
    exact ⟨rfl,rfl⟩
  · rw [late] at failed
    rcases takes with takes | foreign
    · obtain ⟨s₁,lands,-⟩ := landTakes (s := { s with limiter := l }) now key
        (o.ttl.getD (s.ttlFor key)) data tagged takes
      cases lands.symm.trans failed
    · exact absurd (landBlames now key _ data tagged _ f (congrArg Prod.fst failed)) foreign

theorem setAlive (now : τ) (raw data : Value) {o : Options τ} {tags : List Tag} (tagged : o.tags = .ok tags) :
    Op.Blames (·.isCancelled = false) (set now raw data o) := by
  have admitted : Op.Blames (·.isCancelled = false) (admitKey (τ := τ) raw) := by
    intro s f failed
    cases done : s.gate.admitKey raw with
    | ok key => rw [admitKeyPasses done] at failed; cases failed
    | error why =>
      rw [admitKeyRefuses done] at failed
      cases failed
      exact Gate.admitAlive done
  have limited (key : String) : Op.Blames (·.isCancelled = false) (limit now key) := by
    intro s f failed
    unfold limit at failed
    split at failed <;> cases failed
    rfl
  have weighed : Op.Blames (·.isCancelled = false) (weigh (τ := τ) data) := by
    intro s f failed
    unfold weigh at failed
    split at failed
    · cases failed
    · rename_i measured
      cases failed
      exact Gate.measureAlive measured
  have accessed : Op.Blames (·.isCancelled = false) (accessKey now raw) :=
    Op.blamesBind admitted fun key => Op.blamesBind (limited key) fun _ => Op.blamesPure _
  refine Op.blamesBind accessed fun key => Op.blamesBind weighed fun _ =>
    Op.blamesBind Op.blamesRead fun s => ?_
  dsimp only
  split
  · exact Op.blamesFail rfl
  · exact (landBlames now key _ data tagged).mono fun f own => own.alive

end Store

namespace Coordinator

/-- A step fails the task that it carries: the circuit lets no call through, the task is cancelled before
its call, the call fails, or the gate, the limiter or the store refuse what it brought. -/
inductive Fails (c : Coordinator τ) (now : τ) (n : Nat) (t : Task τ) : Step τ → Fault → Prop where
  | rejected {f : Fault} {c₁ : Coordinator τ}
      (refused : onLine (Line.begin c.service now t.endpoint) c = (.error f,c₁)) :
      Fails c now n t (.begin n) f
  | unbegun (a : Attempt) (idle : t.pursuit = none) : Fails c now n t (.advance n a) (.of .cancelled)
  | failed {p : Pursuit} {a : Attempt} {f : Fault} {c₁ : Coordinator τ} (begun : t.pursuit = some p)
      (failed : onLine (Line.advance c.service now p a) c = (.error f,c₁)) :
      Fails c now n t (.advance n a) f
  | refused {p : Pursuit} {a : Attempt} {v : Value} {f : Fault} {c₁ c₂ : Coordinator τ}
      (begun : t.pursuit = some p)
      (brought : onLine (Line.advance c.service now p a) c = (.ok (.done v),c₁))
      (current : t.superseded = false) (refused : writeResult now t v c₁ = (.error f,c₂)) :
      Fails c now n t (.advance n a) f

structure Harmless (c : Coordinator τ) (now : τ) (s : Step τ) (n : Nat) (t : Task τ) (f : Fault) : Prop where
  intact : c.store.meter.sink.Takes (c.store.entries.size + 1) ∨ ¬ f.OfSink →
    (c.step now s).store.entries = c.store.entries ∧ (c.step now s).store.tagged = c.store.tagged
  gone : (c.step now s).tasks.get? n = none
  told : t.purpose = .fetch → ∀ caller x,
    (caller,x) ∈ c.told now s ↔ c.waiting.get? caller = some n ∧ x = .error f
  freed : t.purpose = .fetch →
    (c.step now s).slots = if t.superseded then c.slots else c.slots.erase t.key
  due : (c.step now s).queue = c.queue
  counted : (c.step now s).store.meter.renewed = (c.store.meter.revalidations,
    c.store.meter.revalidationFailures + if t.purpose = .refresh ∧ f.isCancelled = false then 1 else 0)

variable {c : Coordinator τ} {now : τ} {s : Step τ} {n : Nat} {t : Task τ} {f : Fault}

theorem fetchFailed (orderly : c.Orderly) (found : c.tasks.get? n = some t) (fetches : t.purpose = .fetch)
    {b : Board τ} {store : Store τ} (ends : (c.report now s,c.step now s) =
      ({ c with board := b, store } : Coordinator τ).endFetch n t (.error f))
    (counts : store.meter.renewed = c.store.meter.renewed)
    (kept : c.store.meter.sink.Takes (c.store.entries.size + 1) ∨ ¬ f.OfSink →
      store.entries = c.store.entries ∧ store.tagged = c.store.tagged) : c.Harmless now s n t f := by
  have orderly' : ({ c with board := b, store } : Coordinator τ).Orderly :=
    orderly.beside store b c.queue
  have reached : c.step now s = _ := congrArg Prod.snd ends
  have told : c.report now s = _ := congrArg Prod.fst ends
  refine ⟨fun calm => ?_,?_,fun _ caller x => ?_,fun _ => ?_,?_,?_⟩
  · rw [reached]
    exact kept calm
  · rw [reached]
    exact (Assoc.get?_erase c.tasks n n).trans (if_pos rfl)
  · rw [Coordinator.told,told]
    exact endFetchTold orderly' caller x
  · rw [reached]
    have mine : c.slots.get? t.key = some n ↔ t.superseded = false := by
      rw [orderly.slots]
      constructor
      · rintro ⟨t',found',-,-,current⟩
        cases found.symm.trans found'
        exact current
      · exact fun current => ⟨t,found,fetches,rfl,current⟩
    cases old : t.superseded with
    | true => exact if_neg fun slot => by cases old.symm.trans (mine.mp slot)
    | false => exact if_pos (mine.mpr old)
  · rw [reached]
    rfl
  · rw [reached,if_neg (fun refreshes => by cases fetches.symm.trans refreshes.1),Int.add_zero]
    exact counts

theorem refreshFailed (refreshes : t.purpose = .refresh) {b : Board τ} {store : Store τ}
    (ends : (c.report now s,c.step now s) = ({ c with board := b, store } : Coordinator τ).endRefresh n t)
    (counts : store.meter.renewed = (c.store.meter.revalidations,
      c.store.meter.revalidationFailures + if f.isCancelled = false then 1 else 0))
    (kept : c.store.meter.sink.Takes (c.store.entries.size + 1) ∨ ¬ f.OfSink →
      store.entries = c.store.entries ∧ store.tagged = c.store.tagged) : c.Harmless now s n t f := by
  have reached : c.step now s = _ := congrArg Prod.snd ends
  have other : t.purpose ≠ .fetch := fun fetches => by cases refreshes.symm.trans fetches
  refine ⟨fun calm => ?_,?_,fun fetches => absurd fetches other,fun fetches => absurd fetches other,?_,?_⟩
  · rw [reached]
    exact kept calm
  · rw [reached]
    exact (Assoc.get?_erase c.tasks n n).trans (if_pos rfl)
  · rw [reached]
    rfl
  · rw [reached]
    simp only [refreshes,true_and]
    exact counts

theorem countedFailure (key : String) (c : Coordinator τ) :
    ∃ m, (metered (Meter.recordRevalidation key false) c).2 =
        { c with store := { c.store with meter := m } } ∧
      m.renewed = (c.store.meter.revalidations,c.store.meter.revalidationFailures + 1) :=
  ⟨_,rfl,Meter.reportRenewed (.revalidation key false)
    { c.store.meter with revalidationFailures := c.store.meter.revalidationFailures + 1 }⟩

theorem callFailed (orderly : c.Orderly) (found : c.tasks.get? n = some t) {b : Board τ} {m : Meter τ}
    (same : m.bare = c.store.meter.bare) (ends : (c.report now s,c.step now s) =
      ({ c with board := b, store := { c.store with meter := m } } : Coordinator τ).conclude now n t
        (.error f)) : c.Harmless now s n t f := by
  have counts := Meter.bareRenewed same
  unfold conclude at ends
  cases purpose : t.purpose with
  | fetch =>
    simp only [purpose] at ends
    exact fetchFailed orderly found purpose ends counts fun _ => ⟨rfl,rfl⟩
  | refresh =>
    simp only [purpose] at ends
    unfold failRefresh at ends
    cases cancelled : f.isCancelled with
    | true =>
      rw [cancelled,if_pos rfl] at ends
      refine refreshFailed purpose ends ?_ fun _ => ⟨rfl,rfl⟩
      rw [cancelled,if_neg (by decide),Int.add_zero]
      exact counts
    | false =>
      rw [cancelled,if_neg (by decide)] at ends
      obtain ⟨m',after,counted⟩ := countedFailure t.key
        ({ c with board := b, store := { c.store with meter := m } } : Coordinator τ)
      rw [after] at ends
      refine refreshFailed purpose ends ?_ fun _ => ⟨rfl,rfl⟩
      rw [cancelled,if_pos rfl,counted]
      exact congrArg (fun counts => (counts.1,counts.2 + 1)) counts

theorem writeTallied (now : τ) (t : Task τ) (data : Value) (c : Coordinator τ) :
    (writeResult now t data c).2.store.meter.renewed = c.store.meter.renewed := by
  have stored (c : Coordinator τ) : (inStore (Store.set now (.str t.key) data
      ⟨t.ttl,.ok t.tags,t.version,none⟩) c).2.store.meter.renewed = c.store.meter.renewed :=
    Op.movesView (·.meter.renewed) (Store.setTallied now _ data _) c.store
  refine Op.movesView (fun c : Coordinator τ => c.store.meter.renewed) ?_ c
  refine Op.movesBind Op.movesRead fun c => ?_
  split
  · refine Op.movesBind (Op.movesLift _) fun _ => ?_
    exact Op.movesBind (Op.movesSmall stored) fun _ => Op.movesPure _
  · exact Op.movesBind (Op.movesSmall stored) fun _ => Op.movesPure _

theorem writeFails {c c' : Coordinator τ} {data : Value} (failed : writeResult now t data c = (.error f,c')) :
    f.isCancelled = false ∧ ∃ store, c' = { c with store } ∧
      store.meter.renewed = c.store.meter.renewed ∧
      (c.store.meter.sink.Takes (c.store.entries.size + 1) ∨ ¬ f.OfSink →
        store.entries = c.store.entries ∧ store.tagged = c.store.tagged) := by
  have counts := writeTallied now t data c
  have stored (failed : (inStore (Store.set now (.str t.key) data ⟨t.ttl,.ok t.tags,t.version,none⟩) >>=
      fun _ => pure ()) c = (.error f,c')) : f.isCancelled = false ∧ ∃ store, c' = { c with store } ∧
        (c.store.meter.sink.Takes (c.store.entries.size + 1) ∨ ¬ f.OfSink →
          store.entries = c.store.entries ∧ store.tagged = c.store.tagged) := by
    rw [Op.bind_apply] at failed
    cases done : inStore (Store.set now (.str t.key) data ⟨t.ttl,.ok t.tags,t.version,none⟩) c with
    | mk result c₁ =>
      rw [done] at failed
      obtain ⟨store,ran,rfl⟩ := inStoreOk done
      cases result with
      | ok key => cases failed
      | error e =>
        cases failed
        exact ⟨Store.setAlive now _ data rfl _ f (congrArg Prod.fst ran),store,rfl,
          Store.setFails rfl ran⟩
  have kept : f.isCancelled = false ∧ ∃ store, c' = { c with store } ∧
      (c.store.meter.sink.Takes (c.store.entries.size + 1) ∨ ¬ f.OfSink →
        store.entries = c.store.entries ∧ store.tagged = c.store.tagged) := by
    have read : Op.read c = (.ok c,c) := rfl
    have ran := failed
    rw [writeResult,Op.bind_ok read] at ran
    split at ran
    · cases enforced : c.store.gate.enforce t.key data with
      | error why =>
        rw [enforced] at ran
        cases ran
        exact ⟨Gate.enforceAlive enforced,c.store,rfl,fun _ => ⟨rfl,rfl⟩⟩
      | ok u =>
        rw [enforced] at ran
        exact stored ran
    · exact stored ran
  obtain ⟨alive,store,rfl,intact⟩ := kept
  rw [failed] at counts
  exact ⟨alive,store,rfl,counts,intact⟩

theorem writeFailed (orderly : c.Orderly) (found : c.tasks.get? n = some t) {v : Value} {b : Board τ}
    {m : Meter τ} (same : m.bare = c.store.meter.bare) {c₂ : Coordinator τ}
    (current : t.superseded = false) (refused : writeResult now t v
      { c with board := b, store := { c.store with meter := m } } = (.error f,c₂))
    (ends : (c.report now s,c.step now s) =
      ({ c with board := b, store := { c.store with meter := m } } : Coordinator τ).conclude now n t
        (.ok v)) : c.Harmless now s n t f := by
  obtain ⟨alive,store,rfl,counts,intact⟩ := writeFails refused
  have counts' := counts.trans (Meter.bareRenewed same)
  have kept : c.store.meter.sink.Takes (c.store.entries.size + 1) ∨ ¬ f.OfSink →
      store.entries = c.store.entries ∧ store.tagged = c.store.tagged := by
    refine fun calm => intact (calm.imp_left fun takes => ?_)
    have sink : m.sink.bare = c.store.meter.sink.bare := congrArg Meter.sink same
    rw [← Sink.takesBare,sink,Sink.takesBare]
    exact takes
  have lives : ¬ t.superseded = true := by simp [current]
  unfold conclude at ends
  cases purpose : t.purpose with
  | fetch =>
    have completed : completeFetch now t v { c with board := b, store := { c.store with meter := m } } =
        (.error f,{ c with board := b, store }) := by
      rw [completeFetch,if_neg lives,Op.bind_error refused]
    simp only [purpose,completed] at ends
    exact fetchFailed orderly found purpose ends counts' kept
  | refresh =>
    obtain ⟨m',after,counted⟩ := countedFailure t.key ({ c with board := b, store } : Coordinator τ)
    have completed : (completeRefresh now t v
        { c with board := b, store := { c.store with meter := m } }).2 =
        { c with board := b, store := { store with meter := m' } } := by
      have tried : Op.attempt (writeResult now t v)
          { c with board := b, store := { c.store with meter := m } } =
          (.ok (.error f),{ c with board := b, store }) := by
        rw [Op.attempt,refused]
      rw [completeRefresh,if_neg lives,Op.bind_ok tried]
      exact after
    simp only [purpose,completed] at ends
    refine refreshFailed purpose ends ?_ kept
    rw [alive,if_pos rfl,counted]
    exact congrArg (fun counts => (counts.1,counts.2 + 1)) counts'

theorem failsHarmless (orderly : c.Orderly) (found : c.tasks.get? n = some t) (fails : c.Fails now n t s f) :
    c.Harmless now s n t f := by
  cases fails with
  | rejected refused =>
    obtain ⟨b,m,rfl,same⟩ := onLineCounted (Line.beginKeeps Line.countedKeeps _ _ _) refused
    refine callFailed (b := b) orderly found same ?_
    simp only [report,step,begin,found,refused]
  | unbegun a idle =>
    refine callFailed (b := c.board) (m := c.store.meter) orderly found rfl ?_
    simp only [report,step,advance,found,idle]
  | failed begun failed =>
    obtain ⟨b,m,rfl,same⟩ := onLineCounted (Line.advanceKeeps Line.countedKeeps _ _ _ _) failed
    refine callFailed (b := b) orderly found same ?_
    simp only [report,step,advance,found,begun,failed]
  | refused begun brought current refused =>
    obtain ⟨b,m,rfl,same⟩ := onLineCounted (Line.advanceKeeps Line.countedKeeps _ _ _ _) brought
    refine writeFailed (b := b) orderly found same current refused ?_
    simp only [report,step,advance,found,begun,brought]

/-! What is not a failure. -/

def Untroubled (c : Coordinator τ) (now : τ) (s : Step τ) : Prop :=
  (∀ caller f, (caller,.error f) ∉ c.told now s) ∧
    (c.step now s).store.meter.revalidationFailures = c.store.meter.revalidationFailures

theorem untroubledEnd {v : Value} {c₁ : Coordinator τ} (done : (c.report now s,c.step now s) =
      c₁.conclude now n t (.ok v)) (counts : c₁.store.meter.renewed = c.store.meter.renewed)
    (written : t.superseded = false → (writeResult now t v c₁).1 = .ok ()) : c.Untroubled now s := by
  have reached : c.step now s = _ := congrArg Prod.snd done
  have told : c.report now s = _ := congrArg Prod.fst done
  have failures := congrArg Prod.snd counts
  have tallied := writeTallied now t v c₁
  unfold Untroubled Coordinator.told
  rw [reached,told]
  unfold conclude
  cases purpose : t.purpose with
  | fetch =>
    have completed : ∃ c₂, completeFetch now t v c₁ = (.ok v,c₂) ∧
        c₂.store.meter.renewed = c₁.store.meter.renewed := by
      unfold completeFetch
      split
      · exact ⟨c₁,rfl,rfl⟩
      · rename_i current
        cases wrote : writeResult now t v c₁ with
        | mk result c₂ =>
          have stored := written (by simpa using current)
          rw [wrote] at stored tallied
          cases stored
          exact ⟨c₂,Op.bind_ok wrote,tallied⟩
    obtain ⟨c₂,completed,same⟩ := completed
    simp only [completed]
    refine ⟨fun caller f mem => ?_,(congrArg Prod.snd same).trans failures⟩
    obtain ⟨e,-,told⟩ := List.mem_map.mp mem
    cases told
  | refresh =>
    refine ⟨fun _ _ => List.not_mem_nil,?_⟩
    change (completeRefresh now t v c₁).2.store.meter.renewed.2 = _
    unfold completeRefresh
    split
    · exact failures
    · rename_i current
      cases wrote : writeResult now t v c₁ with
      | mk result c₂ =>
        have stored := written (by simpa using current)
        rw [wrote] at stored tallied
        cases stored
        have tried : Op.attempt (writeResult now t v) c₁ = (.ok (.ok ()),c₂) := by rw [Op.attempt,wrote]
        rw [Op.bind_ok tried]
        have counted := congrArg Prod.snd (Meter.reportRenewed (.revalidation t.key true)
          { c₂.store.meter with revalidations := c₂.store.meter.revalidations + 1 })
        exact counted.trans ((congrArg Prod.snd tallied).trans failures)

theorem failsOrUntroubled (carries : s.carries = some n) (found : c.tasks.get? n = some t) :
    (∃ f, c.Fails now n t s f) ∨ c.Untroubled now s := by
  cases s with
  | begin m =>
    cases carries
    cases started : onLine (Line.begin c.service now t.endpoint) c with
    | mk result c₁ =>
      have counts := onLineTallied (Line.beginKeeps Line.countedKeeps _ _ _) started
      cases result with
      | error f => exact .inl ⟨f,.rejected started⟩
      | ok p =>
        refine .inr ?_
        simp only [Untroubled,told,report,step,begin,found,started]
        exact ⟨fun _ _ => List.not_mem_nil,congrArg Prod.snd counts⟩
  | advance m a =>
    cases carries
    cases begun : t.pursuit with
    | none => exact .inl ⟨_,.unbegun a begun⟩
    | some p =>
      cases ran : onLine (Line.advance c.service now p a) c with
      | mk result c₁ =>
        have counts := onLineTallied (Line.advanceKeeps Line.countedKeeps _ _ _ _) ran
        rcases result with f | ⟨v | ⟨delay,next⟩⟩
        · exact .inl ⟨f,.failed begun ran⟩
        · -- data, which is either refused or leads to no trouble
          by_cases refused : t.superseded = false ∧ ∃ f, (writeResult now t v c₁).1 = .error f
          · obtain ⟨current,f,failed⟩ := refused
            exact .inl ⟨f,.refused begun ran current (Prod.ext failed rfl)⟩
          · refine .inr (untroubledEnd (n := n) (t := t) (v := v) ?_ counts fun current => ?_)
            · simp only [report,step,advance,found,begun,ran]
            · cases written : (writeResult now t v c₁).1 with
              | ok u => rfl
              | error f => exact absurd ⟨current,f,written⟩ refused
        · refine .inr ?_
          simp only [Untroubled,told,report,step,advance,found,begun,ran]
          exact ⟨fun _ _ => List.not_mem_nil,congrArg Prod.snd counts⟩
  | _ => cases carries

/-- In every run, whatever fails a fetch or refresh, it is harmless; and whoever is told an error, or
whatever is counted as a failed refresh, comes from such a failure. -/
theorem failuresHarmless (store : Store τ) (rule : BreakerRule τ) (service : Service τ)
    (toleratesStale refusesSensitive : Bool) (run : List (τ × Step τ)) (now : τ) {s : Step τ} {n : Nat}
    {t : Task τ} (carries : s.carries = some n) :
    let c := (create store rule service toleratesStale refusesSensitive).after run
    c.tasks.get? n = some t →
      (∀ f, c.Fails now n t s f → c.Harmless now s n t f) ∧
        ((∃ f, c.Fails now n t s f) ∨ c.Untroubled now s) := by
  intro c found
  have orderly : c.Orderly :=
    afterOrderly (createOrderly store rule service toleratesStale refusesSensitive) run
  exact ⟨fun f => failsHarmless orderly found,failsOrUntroubled carries found⟩

def bothWait : List (Number × Step Number) := [
  (.whole 1000,.fetch "a" (.str "k") openRequest),(.whole 1000,.fetch "b" (.str "k") openRequest),
  (.whole 1000,.begin 0)]

theorem limitedHarmless :
    let c := (limitedCache 2).after bothWait
    let s : Step Number := .advance 0 (.returned (.int 7))
    ∃ t f, c.tasks.get? 0 = some t ∧ c.Fails (.whole 1001) 0 t s f ∧ c.Harmless (.whole 1001) s 0 t f ∧
      c.told (.whole 1001) s = [("a",.error f),("b",.error f)] := by
  intro c s
  let t : Task Number := ⟨.fetch,"k","load",none,[],none,"rpc",false,some ⟨"rpc",0,0⟩⟩
  have told : c.told (.whole 1001) s = [("a",.error (.of (.rateLimited "k" 2 (.whole 60)))),
    ("b",.error (.of (.rateLimited "k" 2 (.whole 60))))] := rfl
  have found : c.tasks.get? 0 = some t := rfl
  have carries : s.carries = some 0 := rfl
  obtain ⟨harmless,⟨f,fails⟩ | untroubled⟩ := failuresHarmless
    { smallStore with limiter := .create 2 (.whole 60) } ⟨1,.whole 60,.whole 10,.whole 40⟩
    ⟨⟨0,.whole 0,.whole 0,.whole 0,none⟩,none,fun low _ => low⟩ true false bothWait (.whole 1001) carries found
  · have first : ("a",.error (.of (.rateLimited "k" 2 (.whole 60)))) ∈ c.told (.whole 1001) s := by
      rw [told]
      exact List.mem_cons_self
    have same := (((harmless f fails).told rfl _ _).mp first).2
    cases same
    exact ⟨t,_,found,fails,harmless _ fails,told⟩
  · refine absurd ?_ (untroubled.1 "a" (.of (.rateLimited "k" 2 (.whole 60))))
    change _ ∈ c.told (.whole 1001) s
    rw [told]
    exact List.mem_cons_self

end Coordinator

end ReadThrough
