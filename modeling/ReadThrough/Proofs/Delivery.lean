import ReadThrough.Proofs.Outcome
import ReadThrough.Proofs.Purge

/-! Delivery. The write at the end of a fetch is an access to the key like every read. Where the limiter
has room for it, or the fetch was superseded and writes nothing, whoever waits gets the data; else all of
them are told that the limit is reached, and the store keeps what it had. -/
namespace ReadThrough
open Relation
variable {τ : Type} [Quantity τ]

namespace Line

theorem announceTakes {most : Nat} {l : Line τ} {m : Meter τ} (endpoint : String)
    (change : Option PhaseChange) (attached : l.meter = some m) (takes : m.sink.Takes most) :
    ∃ l' m', announce endpoint change l = (.ok (),l') ∧ l'.meter = some m' ∧ m'.sink.Takes most := by
  cases change with
  | none => exact ⟨l,m,rfl,attached,takes⟩
  | some change =>
    obtain ⟨m',told,still⟩ := Meter.reportTakes takes
      (.circuit endpoint change.before.label change.after.label)
    refine ⟨{ l with board := { l.board with changes := l.board.changes ++ [(endpoint,change)] },
                     meter := some m' },m',?_,rfl,still⟩
    change metered (Meter.report _) { l with board := _ } = _
    simp only [metered,attached,told]

theorem successTakes {most : Nat} {l : Line τ} {m : Meter τ} (endpoint : String)
    (attached : l.meter = some m) (takes : m.sink.Takes most) :
    ∃ l' m', success endpoint l = (.ok (),l') ∧ l'.meter = some m' ∧ m'.sink.Takes most := by
  have turned {α : Type} (f : Breaker τ → α × Breaker τ) (l : Line τ) :
      ∃ a l', turn endpoint f l = (.ok a,l') ∧ l'.meter = l.meter := ⟨_,_,rfl,rfl⟩
  obtain ⟨change,l₁,first,same⟩ := turned (·.succeed) l
  obtain ⟨l₂,m₂,announced,attached',still⟩ := announceTakes endpoint change (same.trans attached) takes
  obtain ⟨u,l₃,forgiven,same'⟩ := turned (fun b => ((),b.forgive)) l₂
  refine ⟨l₃,m₂,?_,same'.trans attached',still⟩
  have shifted : shift endpoint (·.succeed) l = (.ok (),l₂) := by rw [shift,Op.bind_ok first,announced]
  rw [success,Op.bind_ok shifted,forgiven]

end Line

namespace Coordinator
variable {c : Coordinator τ} {now : τ} {n : Nat} {t : Task τ} {v : Value}

theorem advanceReturned {most : Nat} (now : τ) (v : Value) (found : c.tasks.get? n = some t) {p : Pursuit}
    (begun : t.pursuit = some p) (takes : c.store.meter.sink.Takes most) :
    ∃ b m, m.sink.Takes most ∧ c.advance now n (.returned v) =
      ({ c with board := b, store := { c.store with meter := m } } : Coordinator τ).conclude now n t
        (.ok v) := by
  obtain ⟨l,m,done,attached,still⟩ := Line.successTakes (l := ⟨c.board,some c.store.meter⟩) p.endpoint rfl takes
  have carried : Line.advance c.service now p (.returned v) ⟨c.board,some c.store.meter⟩ =
      (.ok (.done v),l) := by
    unfold Line.advance
    dsimp only
    rw [Op.bind_ok done]
    rfl
  refine ⟨l.board,m,still,?_⟩
  have ran : onLine (Line.advance c.service now p (.returned v)) c =
      (.ok (.done v),{ c with board := l.board, store := { c.store with meter := m } }) := by
    rw [onLine,Op.within,carried]
    dsimp only
    rw [attached]
    rfl
  rw [advance]
  simp only [found,begun,ran]

theorem completeSuperseded (c : Coordinator τ) (now : τ) (v : Value) (old : t.superseded = true) :
    completeFetch now t v c = (.ok v,c) := by
  rw [completeFetch,if_pos old]
  rfl

theorem writeResultSets (scanned : c.refusesSensitive = true → c.store.gate.enforce t.key v = .ok ())
    {r : Except Fault String} {s : Store τ}
    (set : Store.set now (.str t.key) v ⟨t.ttl,.ok t.tags,t.version,none⟩ c.store = (r,s)) :
    writeResult now t v c = (r.map fun _ => (),{ c with store := s }) := by
  have ran : inStore (Store.set now (.str t.key) v ⟨t.ttl,.ok t.tags,t.version,none⟩) c =
      (r,{ c with store := s }) := by
    rw [inStore,Op.within,set]
  have stores : (inStore (Store.set now (.str t.key) v ⟨t.ttl,.ok t.tags,t.version,none⟩) >>=
      fun _ => pure ()) c = (r.map fun _ => (),{ c with store := s }) := by
    rw [Op.bind_apply,ran]
    cases r <;> rfl
  rw [writeResult,Op.bind_ok (show Op.read c = (.ok c,c) from rfl)]
  split
  · rename_i strict
    have passed : Op.liftFailure (c.store.gate.enforce t.key v) c = (.ok (),c) := by
      rw [scanned strict]
      rfl
    rw [Op.bind_ok passed]
    exact stores
  · exact stores

theorem completeCurrent (current : t.superseded = false)
    (scanned : c.refusesSensitive = true → c.store.gate.enforce t.key v = .ok ())
    {r : Except Fault String} {s : Store τ}
    (set : Store.set now (.str t.key) v ⟨t.ttl,.ok t.tags,t.version,none⟩ c.store = (r,s)) :
    completeFetch now t v c = (r.map fun _ => v,{ c with store := s }) := by
  rw [completeFetch,if_neg (by simp [current]),Op.bind_apply,writeResultSets scanned set]
  cases r <;> rfl

/-- What those who wait for a fetch are told, and what becomes of the store, when the call of the fetch
brings data that may be stored. -/
structure Delivers (c : Coordinator τ) (now : τ) (n : Nat) (t : Task τ) (v : Value) (caller : String) :
    Prop where
  received : t.superseded = true ∨ c.store.limiter.HasRoom now t.key →
    (caller,.ok v) ∈ c.told now (.advance n (.returned v))
  stored : t.superseded = false → c.store.limiter.HasRoom now t.key →
    (c.step now (.advance n (.returned v))).store.entries.get? t.key =
      some ⟨v,now,t.ttl.getD (c.store.ttlFor t.key),t.tags,t.version,none⟩
  refused : t.superseded = false → ¬ c.store.limiter.HasRoom now t.key →
    (caller,.error (.of (.rateLimited t.key c.store.limiter.ceiling
      (Quantity.toNumber c.store.limiter.window)))) ∈ c.told now (.advance n (.returned v))
  kept : t.superseded = true ∨ ¬ c.store.limiter.HasRoom now t.key →
    (c.step now (.advance n (.returned v))).store.entries = c.store.entries ∧
      (c.step now (.advance n (.returned v))).store.tagged = c.store.tagged

theorem fetchTold {b b' : Board τ} {s s' : Store τ} {r : Except Fault Value} (orderly : c.Orderly)
    (fetches : t.purpose = .fetch) (ends : c.advance now n (.returned v) =
      ({ c with board := b, store := s } : Coordinator τ).conclude now n t (.ok v))
    (completed : completeFetch now t v { c with board := b, store := s } =
      (r,{ c with board := b', store := s' })) {caller : String} (waits : c.waiting.get? caller = some n) :
    (caller,r) ∈ c.told now (.advance n (.returned v)) ∧
      (c.step now (.advance n (.returned v))).store = s' := by
  have concluded : ({ c with board := b, store := s } : Coordinator τ).conclude now n t (.ok v) =
      ({ c with board := b', store := s' } : Coordinator τ).endFetch n t r := by
    simp only [conclude,fetches,completed]
  have orderly' : ({ c with board := b', store := s' } : Coordinator τ).Orderly :=
    orderly.beside s' b' c.queue
  rw [told,report,step,ends,concluded]
  exact ⟨(endFetchTold orderly' caller r).mpr ⟨waits,rfl⟩,rfl⟩

theorem waiterDelivered (orderly : c.Orderly) (found : c.tasks.get? n = some t)
    (fetches : t.purpose = .fetch) (begun : t.pursuit ≠ none)
    (admitted : c.store.gate.admitKey (.str t.key) = .ok t.key)
    {size : Nat} (weighed : c.store.gate.measure v = .ok size)
    (scanned : c.refusesSensitive = true → c.store.gate.enforce t.key v = .ok ())
    (lasting : ¬ t.ttl.getD (c.store.ttlFor t.key) ≤ Quantity.ofInt 0)
    (takes : c.store.meter.sink.Takes (c.store.entries.size + 1)) {caller : String}
    (waits : c.waiting.get? caller = some n) : c.Delivers now n t v caller := by
  obtain ⟨p,begun⟩ := Option.ne_none_iff_exists'.mp begun
  obtain ⟨b,m,takes',ends⟩ := advanceReturned now v found begun takes
  cases old : t.superseded with
  | true =>
    obtain ⟨got,store⟩ := fetchTold orderly fetches ends (completeSuperseded _ now v old) waits
    refine ⟨fun _ => got,fun bad => ?_,fun bad => ?_,fun _ => ?_⟩
    · cases old.symm.trans bad
    · cases old.symm.trans bad
    · rw [store]
      exact ⟨rfl,rfl⟩
  | false =>
    have ended {r : Except Fault String} {s : Store τ} (set : Store.set now (.str t.key) v
        ⟨t.ttl,.ok t.tags,t.version,none⟩ { c.store with meter := m } = (r,s)) :=
      fetchTold orderly fetches ends (completeCurrent (t := t)
        (c := { c with board := b, store := { c.store with meter := m } }) old scanned set) waits
    by_cases room : c.store.limiter.HasRoom now t.key
    · obtain ⟨s,set,written⟩ := Store.setStores (s := { c.store with meter := m })
        (o := ⟨t.ttl,.ok t.tags,t.version,none⟩) now admitted room weighed lasting rfl takes'
      obtain ⟨got,store⟩ := ended set
      refine ⟨fun _ => got,fun _ _ => ?_,fun _ full => absurd room full,fun lost => ?_⟩
      · rw [store]
        exact written
      · rcases lost with bad | full
        · cases old.symm.trans bad
        · exact absurd room full
    · have set := Store.setLimited (s := { c.store with meter := m }) now admitted v
        ⟨t.ttl,.ok t.tags,t.version,none⟩ room
      obtain ⟨got,store⟩ := ended set
      refine ⟨fun gets => ?_,fun _ bad => absurd bad room,fun _ _ => got,fun _ => ?_⟩
      · rcases gets with bad | bad
        · cases old.symm.trans bad
        · exact absurd bad room
      · rw [store]
        exact ⟨rfl,rfl⟩

/-! Whoever asked. -/

theorem afterGate (c : Coordinator τ) (run : List (τ × Step τ)) :
    (c.after run).store.gate = c.store.gate := by
  induction run generalizing c with
  | nil => rfl
  | cons m rest ih => exact (ih _).trans (chainGate (c.stepTurns m.1 m.2))

theorem stillWaiting {c : Coordinator τ} (orderly : c.Orderly) {caller : String} {n : Nat}
    (waits : c.waiting.get? caller = some n) {run : List (τ × Step τ)}
    (others : ∀ m ∈ run, m.2.caller ≠ some caller) {t : Task τ}
    (found : (c.after run).tasks.get? n = some t) : (c.after run).waiting.get? caller = some n := by
  rcases runWaiting orderly waits others with still | ⟨before,m,rest,r,rfl,ended,-⟩
  · exact still
  · -- a task that has ended is not found again under its number
    obtain ⟨t₀,known,-⟩ := orderly.waiting caller n waits
    have given := Nat.lt_of_lt_of_le (orderly.numbered n t₀ known)
      (afterOnward c (before ++ [m])).next
    have split : c.after (before ++ m :: rest) = (c.after (before ++ [m])).after rest := by
      rw [← afterAppend,List.append_assoc,List.singleton_append]
    have last : c.after (before ++ [m]) = (c.after before).step m.1 m.2 := afterAppend c before [m]
    rw [split] at found
    obtain ⟨t₁,found₁,-⟩ := (afterOnward (c.after (before ++ [m])) rest).tasks n t given found
    rw [last,ended.gone] at found₁
    cases found₁

/-- A caller that was let in and waits for a fetch, when the call of this fetch brings data that may be
stored. -/
theorem fetchDelivers {store : Store τ} {rule : BreakerRule τ} {service : Service τ}
    {toleratesStale refusesSensitive : Bool} {first : List (τ × Step τ)} {asked : τ} {caller : String}
    {raw : Value} {r : Request τ} {n : Nat} {isNew : Bool} {c₁ : Coordinator τ}
    (waits : fetch asked caller raw r ((create store rule service toleratesStale
      refusesSensitive).after first) = (.ok (.waits n isNew),c₁))
    {between : List (τ × Step τ)} (others : ∀ m ∈ between, m.2.caller ≠ some caller) {t : Task τ}
    (found : (c₁.after between).tasks.get? n = some t) (begun : t.pursuit ≠ none) {v : Value} {size : Nat}
    (weighed : store.gate.measure v = .ok size)
    (scanned : (c₁.after between).refusesSensitive = true → store.gate.enforce t.key v = .ok ())
    (lasting : ¬ t.ttl.getD ((c₁.after between).store.ttlFor t.key) ≤ Quantity.ofInt 0)
    (takes : (c₁.after between).store.meter.sink.Takes ((c₁.after between).store.entries.size + 1))
    (now : τ) : (c₁.after between).Delivers now n t v caller := by
  have orderly₀ := afterOrderly (createOrderly store rule service toleratesStale refusesSensitive) first
  have gate₀ := afterGate (create store rule service toleratesStale refusesSensitive) first
  generalize (create store rule service toleratesStale refusesSensitive).after first = c₀ at waits orderly₀ gate₀
  obtain ⟨key,admitted,slot,orderly,-⟩ := fetchSlot orderly₀ waits
  obtain ⟨c',given,-,shared⟩ := fetchShares admitted waits
  have mine := (shareWaits shared).2.1
  obtain ⟨t₁,found₁,fetches,own,-⟩ := (orderly.slots key n).mp slot
  obtain ⟨t₂,found₂,follows⟩ := (afterOnward c₁ between).tasks n t (orderly.numbered n t₁ found₁) found
  cases found₁.symm.trans found₂
  have gate₁ : c₁.store.gate = c₀.store.gate := by
    have chain := chainGate (c₀.stepTurns asked (.fetch caller raw r))
    rw [step,waits] at chain
    exact chain
  have gate : (c₁.after between).store.gate = store.gate := ((afterGate c₁ between).trans gate₁).trans gate₀
  rw [gate₀] at admitted
  have keyed : t.key = key := follows.key.trans own
  refine waiterDelivered (afterOrderly orderly between) found (follows.purpose.trans fetches) begun ?_
    (gate.symm ▸ weighed) (gate.symm ▸ scanned) lasting takes (stillWaiting orderly mine others found)
  rw [gate,keyed]
  exact (Key.sanitizeAgain admitted).2

def openRequest : Request Number := ⟨"load",none,none,none,true,false,"rpc"⟩

def limitedCache (ceiling : Int) : Coordinator Number :=
  create { smallStore with limiter := .create ceiling (.whole 60) } ⟨1,.whole 60,.whole 10,.whole 40⟩
    ⟨⟨0,.whole 0,.whole 0,.whole 0,none⟩,none,fun low _ => low⟩ true false

def askedOnce (ceiling : Int) : Coordinator Number :=
  (fetch (.whole 1000) "a" (.str "k") openRequest (limitedCache ceiling)).2

theorem secondAccessStored : ∃ t, ((askedOnce 2).after [(.whole 1000,.begin 0)]).tasks.get? 0 = some t ∧
    ((askedOnce 2).after [(.whole 1000,.begin 0)]).store.limiter.HasRoom (.whole 1001) "k" ∧
    ((askedOnce 2).after [(.whole 1000,.begin 0)]).Delivers (.whole 1001) 0 t (.int 7) "a" := by
  have waits : fetch (.whole 1000) "a" (.str "k") openRequest ((limitedCache 2).after []) =
      (.ok (.waits 0 true),askedOnce 2) := rfl
  have others : ∀ m ∈ [((.whole 1000 : Number),(Step.begin 0 : Step Number))],
      m.2.caller ≠ some "a" := by
    simp [Step.caller]
  have weighed : smallStore.gate.measure (.int 7) = .ok 1 := by rfl
  refine ⟨_,rfl,by decide,?_⟩
  exact fetchDelivers waits others rfl (by simp) weighed (fun strict => by cases strict) (by decide)
    trivial (.whole 1001)

/-- The read of the only caller was let in, and spends the one access that the limiter allows. -/
theorem readSpendsWrite :
    let c := (askedOnce 1).after [(.whole 1000,.begin 0)]
    (fetch (.whole 1000) "a" (.str "k") openRequest (limitedCache 1)).1 = .ok (.waits 0 true) ∧
      c.told (.whole 1001) (.advance 0 (.returned (.int 7))) =
        [("a",.error (.of (.rateLimited "k" 1 (.whole 60))))] ∧
      (c.step (.whole 1001) (.advance 0 (.returned (.int 7)))).store.entries.has "k" = false :=
  ⟨rfl,rfl,rfl⟩

end Coordinator

end ReadThrough
