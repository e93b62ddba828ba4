import ReadThrough.Proofs.Delivery
import ReadThrough.Proofs.Freshness
import ReadThrough.Proofs.Gatekeeper
import ReadThrough.Proofs.Reading

/-! Where data comes from. Every task was opened by a step that handed its function over under its key, and
every entry was written by a step at its stamp, with data that was set or that the function of a task
returned. So whatever a read of a key answers goes back to one of the two, under that key. -/
namespace ReadThrough.Coordinator
open Relation
variable {τ : Type} [Quantity τ]

inductive Passes (g : Gate) (key supplier : String) : Step τ → Prop where
  | read {caller : String} {raw : Value} {r : Request τ} (admitted : g.admitKey raw = .ok key)
      (own : r.supplier = supplier) : Passes g key supplier (.fetch caller raw r)
  | refresh {raw : String} {ttl : Option τ} {tags : Except Failure (List Tag)} {version : Option String}
      {endpoint : String} (admitted : g.admitKey (.str raw) = .ok key) :
      Passes g key supplier (.schedule raw supplier ttl tags version endpoint)

/-- At a position of a run the data is set under the key, or returned to a task by the function that the
step that opened the task had handed over under the key. -/
inductive Source (c : Coordinator τ) (run : List (τ × Step τ)) (key : String) (v : Value) (i : Nat) :
    Prop where
  | set {now : τ} {raw : Value} {o : Options τ} (here : run[i]? = some (now,.set raw v o))
      (admitted : c.store.gate.admitKey raw = .ok key) : Source c run key v i
  | returned {now : τ} {n j : Nat} {t : Task τ} {m : τ × Step τ}
      (here : run[i]? = some (now,.advance n (.returned v))) (found : (c.upTo run i).tasks.get? n = some t)
      (order : j < i) (there : run[j]? = some m) (unknown : (c.upTo run j).nextTask ≤ n)
      (given : n < (c.upTo run (j + 1)).nextTask) (passes : Passes c.store.gate key t.supplier m.2) :
      Source c run key v i

/-- A read of the key at position `i` gives the data, at once or at position `j`, where the caller is told
the end of the fetch it has waited for since. -/
inductive Returns (c : Coordinator τ) (run : List (τ × Step τ)) (key : String) (v : Value) :
    Nat → Nat → Prop where
  | served {i : Nat} {now : τ} {caller : String} {raw : Value} {r : Request τ} {refresh : Option Nat}
      {c' : Coordinator τ} (here : run[i]? = some (now,.fetch caller raw r))
      (admitted : c.store.gate.admitKey raw = .ok key)
      (answers : fetch now caller raw r (c.upTo run i) = (.ok (.served v refresh),c')) :
      Returns c run key v i i
  | told {i j n : Nat} {now : τ} {caller : String} {raw : Value} {r : Request τ} {isNew : Bool}
      {c' : Coordinator τ} {m : τ × Step τ} (asked : run[i]? = some (now,.fetch caller raw r))
      (admitted : c.store.gate.admitKey raw = .ok key)
      (waits : fetch now caller raw r (c.upTo run i) = (.ok (.waits n isNew),c')) (order : i < j)
      (others : ∀ k s, i < k → k < j → run[k]? = some s → s.2.caller ≠ some caller)
      (here : run[j]? = some m) (told : (caller,.ok v) ∈ (c.upTo run j).told m.1 m.2) :
      Returns c run key v i j
  | got {i : Nat} {now : τ} {raw : Value} {c' : Coordinator τ} (here : run[i]? = some (now,.get raw))
      (admitted : c.store.gate.admitKey raw = .ok key)
      (answers : inStore (Store.get now raw) (c.upTo run i) = (.ok (some v),c')) : Returns c run key v i i

def WrittenBefore (c : Coordinator τ) (run : List (τ × Step τ)) (key : String) (e : Entry τ) (i : Nat) : Prop :=
  ∃ j s, j < i ∧ run[j]? = some (e.stamp,s) ∧ (c.upTo run j).Stores e.stamp s (.written key e)

/-- The read at a position is answered from an entry that was written at its stamp and stays where it is. The answer
counts as fresh exactly where the entry has not outlasted its time to live: it is no older, or one of the two is not
defined as a number and compares with nothing. -/
structure Backed (c : Coordinator τ) (run : List (τ × Step τ)) (key : String) (v : Value) (i : Nat)
    (now : τ) (e : Entry τ) (fresh : Bool) : Prop where
  data : e.data = v
  stored : (c.upTo run i).store.entries.get? key = some e
  kept : (c.upTo run (i + 1)).store.entries.get? key = some e
  written : WrittenBefore c run key e i
  age : fresh = true ↔ ¬ e.ttl < now - e.stamp
  counted : (c.upTo run (i + 1)).store.meter.answered = if fresh
    then ((c.upTo run i).store.meter.hits + 1,(c.upTo run i).store.meter.staleHits)
    else ((c.upTo run i).store.meter.hits,(c.upTo run i).store.meter.staleHits + 1)

structure Sourced (c : Coordinator τ) (run : List (τ × Step τ)) : Prop where
  sources : ∀ key v i j, Returns c run key v i j → ∃ k ≤ j, Source c run key v k
  served : ∀ key v i now caller raw r refresh c', run[i]? = some (now,.fetch caller raw r) →
    c.store.gate.admitKey raw = .ok key →
    fetch now caller raw r (c.upTo run i) = (.ok (.served v refresh),c') →
    ∃ e fresh, Backed c run key v i now e fresh ∧ (fresh = true ∨ (c.upTo run i).toleratesStale = true)
  got : ∀ key v i now raw c', run[i]? = some (now,.get raw) → c.store.gate.admitKey raw = .ok key →
    inStore (Store.get now raw) (c.upTo run i) = (.ok (some v),c') → ∃ e, Backed c run key v i now e true

/-! Tasks and their openings. -/

variable {c : Coordinator τ} {run : List (τ × Step τ)}

omit [Quantity τ] in
theorem opensPasses {s : Step τ} {t : Task τ} {key : String} (opens : c.Opens s t)
    (admitted : c.store.gate.admitKey (.str t.key) = .ok key) : Passes c.store.gate key t.supplier s := by
  cases s with
  | fetch caller raw r =>
    obtain ⟨own,admitted',asks⟩ := opens
    have again := (Key.sanitizeAgain admitted').2
    cases asks with
    | fetch tags =>
      cases again.symm.trans admitted
      exact .read admitted' rfl
    | refresh tags stored =>
      cases again.symm.trans admitted
      exact .read admitted' rfl
  | schedule raw supplier ttl tags version endpoint =>
    obtain ⟨tags,rfl⟩ := opens
    exact .refresh admitted
  | _ => exact opens.elim

theorem taskOpened (orderly : c.Orderly) (fresh : c.nextTask = 0) {i n : Nat} {t : Task τ}
    (found : (c.upTo run i).tasks.get? n = some t) :
    ∃ j < i, ∃ m t₀, run[j]? = some m ∧ (c.upTo run j).nextTask ≤ n ∧
      n < (c.upTo run (j + 1)).nextTask ∧ (c.upTo run j).Opens m.2 t₀ ∧ t.Follows t₀ := by
  have given := (afterOrderly orderly (run.take i)).numbered n t found
  obtain ⟨j,earlier,unknown,opened⟩ := openedAt (fresh ▸ Nat.zero_le n) given
  have onward : (c.upTo run (j + 1)).Onward (c.upTo run i) := upToOnward (Nat.succ_le_of_lt earlier)
  obtain ⟨t₁,found₁,follows⟩ := onward.tasks n t opened found
  cases here : run[j]? with
  | none =>
    rw [upToEnd here] at opened
    exact absurd opened (Nat.not_lt_of_le unknown)
  | some m =>
    rw [upToNext here] at found₁
    obtain ⟨t₀,before | opens,follows'⟩ := chainOpened ((c.upTo run j).stepTurns m.1 m.2) found₁
    · have known := (afterOrderly orderly (run.take j)).numbered n t₀ before
      exact absurd known (Nat.not_lt_of_le unknown)
    · exact ⟨j,earlier,m,t₀,here,unknown,opened,opens,follows.trans follows'⟩

theorem upToGate (c : Coordinator τ) (run : List (τ × Step τ)) (i : Nat) :
    (c.upTo run i).store.gate = c.store.gate := afterGate c (run.take i)

theorem returnedSource (orderly : c.Orderly) (fresh : c.nextTask = 0) {i n : Nat} {now : τ} {v : Value}
    {t : Task τ} {key : String} (here : run[i]? = some (now,.advance n (.returned v)))
    (found : (c.upTo run i).tasks.get? n = some t) (admitted : c.store.gate.admitKey (.str t.key) = .ok key) :
    Source c run key v i := by
  obtain ⟨j,order,m,t₀,there,unknown,given,opens,follows⟩ := taskOpened orderly fresh found
  rw [follows.key,← upToGate c run j] at admitted
  have passes := opensPasses opens admitted
  rw [upToGate,← follows.supplier] at passes
  exact .returned here found order there unknown given passes

/-! Entries and their writes. -/

theorem entryWritten (empty : c.store.entries = .empty) {i : Nat} {key : String} {e : Entry τ}
    (found : (c.upTo run i).store.entries.get? key = some e) : WrittenBefore c run key e i := by
  induction i with
  | zero =>
    rw [show c.upTo run 0 = c from rfl,empty] at found
    cases found
  | succ i ih =>
    have earlier (before : (c.upTo run i).store.entries.get? key = some e) :
        WrittenBefore c run key e (i + 1) := by
      obtain ⟨j,s,order,wrote⟩ := ih before
      exact ⟨j,s,Nat.lt_succ_of_lt order,wrote⟩
    cases here : run[i]? with
    | none =>
      rw [upToEnd here] at found
      exact earlier found
    | some m =>
      rw [upToNext here] at found
      rcases Store.chainEntries (chainStore ((c.upTo run i).stepTurns m.1 m.2)) found with before | wrote
      · exact earlier before
      · obtain ⟨raw,data,o,written⟩ := storesWritten wrote
        obtain ⟨tags,-,rfl⟩ := written.entry
        exact ⟨i,m.2,Nat.lt_succ_self i,here,wrote⟩

theorem entrySource (orderly : c.Orderly) (fresh : c.nextTask = 0) (empty : c.store.entries = .empty)
    {i : Nat} {key : String} {e : Entry τ} (found : (c.upTo run i).store.entries.get? key = some e) :
    ∃ k < i, Source c run key e.data k := by
  obtain ⟨k,s,order,here,wrote⟩ := entryWritten empty found
  refine ⟨k,order,?_⟩
  cases s with
  | set raw data o =>
    obtain ⟨admitted,-,-,tags,-,same⟩ := (show Store.Written _ _ _ _ _ _ _ _ from wrote)
    rw [upToGate] at admitted
    rw [same]
    exact .set here admitted
  | advance n a =>
    obtain ⟨t,task,-,data,rfl,-,written⟩ := wrote
    obtain ⟨admitted,-,-,tags,-,same⟩ := (show Store.Written _ _ _ _ _ _ _ _ from written)
    rw [upToGate] at admitted
    rw [same]
    exact returnedSource orderly fresh here task admitted
  | clear => cases wrote
  | _ => exact wrote.elim

/-! Answers. -/

theorem waitsOnly (orderly : c.Orderly) {i j n : Nat} {caller : String} (order : i < j)
    (waits : (c.upTo run (i + 1)).waiting.get? caller = some n)
    (others : ∀ k s, i < k → k < j → run[k]? = some s → s.2.caller ≠ some caller) :
    (c.upTo run j).waiting.get? caller = some n ∨ (c.upTo run j).waiting.get? caller = none := by
  change i + 1 ≤ j at order
  induction order with
  | refl => exact .inl waits
  | @step j order ih =>
    have before := ih fun k s after earlier => others k s after (Nat.lt_succ_of_lt earlier)
    cases here : run[j]? with
    | none =>
      rw [upToEnd here]
      exact before
    | some m =>
      rw [upToNext here]
      have other := others j m order (Nat.lt_succ_self j) here
      rcases stepUnmoved (upToOrderly orderly j) m.1 other with same | gone
      · rw [same]
        exact before
      · exact .inr gone

theorem toldWaits {c : Coordinator τ} (orderly : c.Orderly) {now : τ} {s : Step τ} {caller : String}
    {x : Except Fault Value} (told : (caller,x) ∈ c.told now s) : ∃ n, c.waiting.get? caller = some n := by
  cases carries : s.carries with
  | none => cases s <;> first | cases told | cases carries
  | some n =>
    cases found : c.tasks.get? n with
    | none =>
      rw [(carriedAbsent carries found).2] at told
      cases told
    | some t =>
      obtain ⟨may,brought,course,-⟩ := @carriedCourse τ _ c now s n t carries found
      rw [Coordinator.told] at told
      generalize c.report now s = report at course told
      generalize c.step now s = c' at course
      cases course with
      | goesOn p chain unfinished =>
        cases report with
        | finished results => exact absurd rfl (unfinished results)
        | _ => cases told
      | fetchEnds r chain fetches brings =>
        have waits := ((endFetchTold (t := t) (asideOrderly chain orderly) caller x).mp told).1
        obtain ⟨s,b,q,rfl⟩ := asideFlights chain
        exact ⟨n,waits⟩
      | refreshEnds chain refreshes => cases told

theorem toldSource (orderly : c.Orderly) (fresh : c.nextTask = 0) {i j n : Nat} {key caller : String}
    {raw : Value} {r : Request τ} {now : τ} {isNew : Bool} {c' : Coordinator τ} {m : τ × Step τ} {v : Value}
    (asked : run[i]? = some (now,.fetch caller raw r)) (admitted : c.store.gate.admitKey raw = .ok key)
    (waits : fetch now caller raw r (c.upTo run i) = (.ok (.waits n isNew),c')) (order : i < j)
    (others : ∀ k s, i < k → k < j → run[k]? = some s → s.2.caller ≠ some caller)
    (here : run[j]? = some m) (told : (caller,.ok v) ∈ (c.upTo run j).told m.1 m.2) :
    Source c run key v j := by
  have next : c.upTo run (i + 1) = c' := by
    rw [upToNext asked,step,waits]
  have orderly' : c'.Orderly := next ▸ upToOrderly orderly (i + 1)
  have gate := upToGate c run i
  obtain ⟨c₁,given,-,shared⟩ := fetchShares (gate.symm ▸ admitted) waits
  obtain ⟨slot,mine,-⟩ := shareWaits shared
  obtain ⟨p,waiting⟩ := toldWaits (upToOrderly orderly j) told
  -- it is the fetch of the request that ends, since the caller has waited for no other
  have same : p = n := by
    rcases waitsOnly orderly order (next ▸ mine) others with still | gone
    · exact Option.some.inj (waiting.symm.trans still)
    · cases waiting.symm.trans gone
  subst same
  obtain ⟨t₁,found₁,fetches,own,-⟩ := (orderly'.slots key p).mp slot
  obtain ⟨t,found,-⟩ := (upToOrderly orderly j).waiting caller p waiting
  have onward : c'.Onward (c.upTo run j) := next ▸ upToOnward (Nat.succ_le_of_lt order)
  obtain ⟨t₂,found₂,follows⟩ := onward.tasks p t (orderly'.numbered p t₁ found₁) found
  cases found₁.symm.trans found₂
  have quiet : m.2.caller ≠ some caller := by
    intro calls
    cases s : m.2 <;> rw [s] at told calls <;> first | cases told | cases calls
  rcases stepWaiting (upToOrderly orderly j) m.1 waiting quiet with ⟨-,silent⟩ | ⟨x,ends⟩
  · exact absurd told (silent (.ok v))
  · obtain ⟨-,rfl⟩ := (ends.told caller (.ok v)).mp told
    obtain ⟨now',s⟩ := m
    cases ends.value v rfl
    refine returnedSource orderly fresh here found ?_
    rw [follows.key,own]
    exact (Key.sanitizeAgain admitted).2

theorem isExpiredIff (e : Entry τ) (now : τ) : e.isExpired now = false ↔ ¬ e.ttl < now - e.stamp :=
  decide_eq_false_iff_not

theorem staleBacked {i : Nat} {key : String} {now : τ} {e : Entry τ} {l : Limiter τ} {m : Meter τ}
    (stored : (c.upTo run i).store.entries.get? key = some e) (expired : e.isExpired now = true)
    (counted : m.answered = ((c.upTo run i).store.meter.hits,(c.upTo run i).store.meter.staleHits + 1))
    (next : (c.upTo run (i + 1)).store = ((c.upTo run i).counted l m).store)
    (written : WrittenBefore c run key e i) : Backed c run key e.data i now e false := by
  refine ⟨rfl,stored,?_,written,?_,?_⟩
  · rw [next]
    exact stored
  · exact ⟨nofun,fun lasts => by cases expired.symm.trans ((isExpiredIff e now).mpr lasts)⟩
  · rw [next]
    exact counted

theorem servedBacked (empty : c.store.entries = .empty) {i : Nat} {key caller : String} {raw : Value}
    {r : Request τ} {now : τ} {refresh : Option Nat} {c' : Coordinator τ} {v : Value}
    (here : run[i]? = some (now,.fetch caller raw r)) (admitted : c.store.gate.admitKey raw = .ok key)
    (answers : fetch now caller raw r (c.upTo run i) = (.ok (.served v refresh),c')) :
    ∃ e fresh, Backed c run key v i now e fresh ∧ (fresh = true ∨ (c.upTo run i).toleratesStale = true) := by
  have next : c.upTo run (i + 1) = c' := by
    rw [upToNext here,step,answers]
  obtain ⟨key',admitted',reads⟩ := fetchServed answers
  rw [upToGate] at admitted'
  cases admitted.symm.trans admitted'
  cases reads with
  | @fresh e l m stored lasts counted =>
    refine ⟨e,true,⟨rfl,stored,?_,entryWritten empty stored,?_,?_⟩,.inl rfl⟩
    · rw [next]
      exact stored
    · exact ⟨fun _ => (isExpiredIff e now).mp lasts,fun _ => rfl⟩
    · rw [next]
      exact counted
  | @behind e l m stored expired counted tolerates registered =>
    obtain ⟨q,queued⟩ := ((c.upTo run i).counted l m).markStaleQueues now key
    refine ⟨e,false,staleBacked (l := l) stored expired counted ?_ (entryWritten empty stored),.inr tolerates⟩
    rw [next,queued]
  | @renewing e l m tags stored expired counted tolerates free =>
    obtain ⟨q,queued⟩ := ((c.upTo run i).counted l m).markStaleQueues now key
    refine ⟨e,false,staleBacked (l := l) stored expired counted ?_ (entryWritten empty stored),.inr tolerates⟩
    rw [next,queued]

theorem gotBacked (empty : c.store.entries = .empty) {i : Nat} {key : String} {raw : Value} {now : τ}
    {c' : Coordinator τ} {v : Value} (here : run[i]? = some (now,.get raw))
    (admitted : c.store.gate.admitKey raw = .ok key)
    (answers : inStore (Store.get now raw) (c.upTo run i) = (.ok (some v),c')) :
    ∃ e, Backed c run key v i now e true := by
  obtain ⟨s,read,rfl⟩ := inStoreOk answers
  have next : c.upTo run (i + 1) = { c.upTo run i with store := s } := by
    rw [upToNext here,step,answers]
  obtain ⟨key',e,l,m,admitted',stored,same,lasts,counted,rfl⟩ := Store.getServed read
  rw [upToGate] at admitted'
  cases admitted.symm.trans admitted'
  refine ⟨e,same,stored,?_,entryWritten empty stored,?_,?_⟩
  · rw [next]
    exact stored
  · exact ⟨fun _ => (isExpiredIff e now).mp lasts,fun _ => rfl⟩
  · rw [next]
    exact counted

theorem returnsSource (orderly : c.Orderly) (fresh : c.nextTask = 0) (empty : c.store.entries = .empty)
    {key : String} {v : Value} {i j : Nat} (returns : Returns c run key v i j) :
    ∃ k ≤ j, Source c run key v k := by
  have backed {now : τ} {i : Nat} {e : Entry τ} {counts : Bool} (backed : Backed c run key v i now e counts) :
      ∃ k ≤ i, Source c run key v k := by
    obtain ⟨k,order,source⟩ := entrySource orderly fresh empty backed.stored
    exact ⟨k,Nat.le_of_lt order,backed.data ▸ source⟩
  cases returns with
  | served here admitted answers =>
    obtain ⟨e,counts,entry,-⟩ := servedBacked empty here admitted answers
    exact backed entry
  | told asked admitted waits order others here told =>
    exact ⟨j,Nat.le_refl j,toldSource orderly fresh asked admitted waits order others here told⟩
  | got here admitted answers =>
    obtain ⟨e,entry⟩ := gotBacked empty here admitted answers
    exact backed entry

/-- In every run of a coordinator over a new store, whatever is answered to a read of a key was set under
the key or returned by a function handed over with a read of it, and what is answered as fresh is the data
of an entry in the store that is no older than its time to live. -/
theorem readsSourced {capacity : Int} {ttlFor : String → τ} {gate : Gate} {limiter : Limiter τ}
    {meter : Meter τ} {store : Store τ} (made : Store.create capacity ttlFor gate limiter meter = .ok store)
    (rule : BreakerRule τ) (service : Service τ) (toleratesStale refusesSensitive : Bool)
    (run : List (τ × Step τ)) :
    (create store rule service toleratesStale refusesSensitive).Sourced run := by
  have orderly := createOrderly store rule service toleratesStale refusesSensitive
  have empty : (create store rule service toleratesStale refusesSensitive).store.entries = .empty := by
    obtain rfl := Store.createOk made
    rfl
  exact ⟨fun _ _ _ _ => returnsSource orderly rfl empty,
    fun _ _ _ _ _ _ _ _ _ => servedBacked empty,fun _ _ _ _ _ _ => gotBacked empty⟩

def renewedRun : List (Number × Step Number) := [
  (.whole 1000,.set (.str "my key") (.int 1) brief),
  (.whole 1002,.fetch "a" (.str "my_key") userRequest),(.whole 1002,.begin 0),
  (.whole 1003,.advance 0 (.returned (.int 2))),(.whole 1004,.get (.str "my!key"))]

theorem renewedSourced : Store.create 10 smallStore.ttlFor smallStore.gate smallStore.limiter
      smallStore.meter = .ok smallStore ∧
    Returns smallCache renewedRun "my_key" (.int 1) 1 1 ∧ Returns smallCache renewedRun "my_key" (.int 2) 4 4 ∧
    smallCache.Sourced renewedRun := by
  have made : Store.create 10 smallStore.ttlFor smallStore.gate smallStore.limiter smallStore.meter =
      .ok smallStore := rfl
  exact ⟨made,.served rfl rfl rfl,.got rfl rfl rfl,readsSourced made _ _ true false renewedRun⟩

end ReadThrough.Coordinator
