import ReadThrough.Proofs.Purge

/-! Which of two writes is the fresher one. A write belongs to the moment at which its data was asked
for: the call that sets it, or the step that opened its task. Fetches of a key follow one another, and so
do its refreshes, so each kind writes in the order of its starts, and so does whoever sets. Between the
kinds there is no order: a task writes over what was set, fetched or refreshed since it was opened. -/
namespace ReadThrough.Coordinator
open Relation
variable {τ : Type}

inductive Origin where
  | set
  | task (n : Nat) (purpose : Purpose)
  deriving DecidableEq, Repr

def Origin.kind : Origin → Option Purpose
  | set => none
  | task _ purpose => some purpose

inductive Writing (c : Coordinator τ) (key : String) (data : Value) : Step τ → Origin → Prop where
  | set {raw : Value} (o : Options τ) (admitted : c.store.gate.admitKey raw = .ok key) :
      Writing c key data (.set raw data o) .set
  | task {n : Nat} {t : Task τ} (found : c.tasks.get? n = some t) (current : t.superseded = false)
      (own : t.key = key) : Writing c key data (.advance n (.returned data)) (.task n t.purpose)

theorem Orderly.onlyWriter {c : Coordinator τ} (orderly : c.Orderly) {n n' : Nat} {t t' : Task τ}
    (found : c.tasks.get? n = some t) (current : t.superseded = false)
    (found' : c.tasks.get? n' = some t') (current' : t'.superseded = false) (own : t'.key = t.key)
    (kind : t'.purpose = t.purpose) : n' = n := by
  cases purpose : t.purpose with
  | fetch =>
    exact orderly.single ⟨t',found',kind.trans purpose,own,current'⟩ ⟨t,found,purpose,rfl,current⟩
  | refresh =>
    have first := (orderly.refreshing t.key n).mpr ⟨t,found,purpose,rfl⟩
    have second := (orderly.refreshing t.key n').mpr ⟨t',found',kind.trans purpose,own⟩
    exact Option.some.inj (second.symm.trans first)

variable [Quantity τ]

theorem concludeGone (c : Coordinator τ) (now : τ) (n : Nat) (t : Task τ) (r : Except Fault Value) :
    (c.conclude now n t r).2.tasks.get? n = none := by
  have erased (c : Coordinator τ) : (c.tasks.erase n).get? n = none :=
    (Assoc.get?_erase c.tasks n n).trans (if_pos rfl)
  unfold conclude
  split <;> exact erased _

theorem returnedGone (c : Coordinator τ) (now : τ) (n : Nat) (v : Value) :
    (c.advance now n (.returned v)).2.tasks.get? n = none := by
  cases found : c.tasks.get? n with
  | none => simp only [advance,found]
  | some t =>
    simp only [advance,found]
    cases t.pursuit with
    | none => exact concludeGone _ _ _ _ _
    | some p =>
      dsimp only
      cases ran : onLine (Line.advance c.service now p (.returned v)) c with
      | mk result c₁ =>
        cases result with
        | error e => exact concludeGone _ _ _ _ _
        | ok progress =>
          cases progress with
          | done w => exact concludeGone _ _ _ _ _
          | pause delay next =>
            obtain ⟨⟨l,carried⟩,-⟩ := onLineOk ran
            obtain ⟨_,_,-,last⟩ := Op.bindOk carried
            cases last

theorem nextWriter {c c' : Coordinator τ} (orderly : c.Orderly) {now : τ} {n n' : Nat} {v : Value}
    {t t' : Task τ} (found : c.tasks.get? n = some t) (current : t.superseded = false)
    (onward : (c.step now (.advance n (.returned v))).Onward c') (found' : c'.tasks.get? n' = some t')
    (current' : t'.superseded = false) (own : t'.key = t.key) (kind : t'.purpose = t.purpose) :
    (c.step now (.advance n (.returned v))).nextTask ≤ n' := by
  by_contra older
  -- an older current task of this kind under this key is the one that has written, and that one is over
  obtain ⟨t₁,found₁,follows₁⟩ := onward.tasks n' t' (Nat.lt_of_not_le older) found'
  have chain := c.stepTurns now (.advance n (.returned v))
  obtain ⟨t₀,found₀,follows₀⟩ := chainTasks chain (fun _ opens => opens) found₁
  have follows := follows₁.trans follows₀
  have current₀ : t₀.superseded = false := by
    cases old : t₀.superseded with
    | false => rfl
    | true => exact (follows.2 old).symm.trans current'
  have same := orderly.onlyWriter found current found₀ current₀ (follows.key.symm.trans own)
    (follows.purpose.symm.trans kind)
  subst same
  have gone := returnedGone c now n' v
  cases found₁.symm.trans gone

theorem newWriting {c : Coordinator τ} (keyed : c.Keyed) {now : τ} {s : Step τ} {key : String}
    {e : Entry τ} (found : (c.step now s).store.entries.get? key = some e)
    (new : c.store.entries.get? key ≠ some e) : ∃ o, Writing c key e.data s o := by
  have written := (Store.chainEntries (chainStore (c.stepTurns now s)) found).resolve_left new
  cases s with
  | set raw data o =>
    obtain ⟨tags,-,rfl⟩ := written.entry
    exact ⟨.set,.set o written.admitted⟩
  | advance n a =>
    obtain ⟨t,task,current,data,rfl,-,wrote⟩ := written
    obtain ⟨tags,-,rfl⟩ := wrote.entry
    obtain ⟨text,same,-,clean,-⟩ := Key.sanitizeOk wrote.admitted
    cases same
    rw [keyed n t task] at clean
    exact ⟨_,.task task current clean.symm⟩
  | clear => cases written
  | _ => exact written.elim

/-! Positions in a run. -/

def upTo (c : Coordinator τ) (run : List (τ × Step τ)) (i : Nat) : Coordinator τ := c.after (run.take i)

/-- A write at position `j` has its start at a position: its own, or the one that opened its task. -/
inductive Started (c : Coordinator τ) (run : List (τ × Step τ)) (j : Nat) : Origin → Nat → Prop where
  | set : Started c run j .set j
  | task {n i : Nat} (purpose : Purpose) (unknown : (c.upTo run i).nextTask ≤ n)
      (given : n < (c.upTo run (i + 1)).nextTask) : Started c run j (.task n purpose) i

variable {c : Coordinator τ} {run : List (τ × Step τ)}

theorem upToNext {j : Nat} {m : τ × Step τ} (here : run[j]? = some m) :
    c.upTo run (j + 1) = (c.upTo run j).step m.1 m.2 := by
  rw [upTo,List.take_add_one,here,afterAppend]
  rfl

theorem upToEnd {j : Nat} (ended : run[j]? = none) : c.upTo run (j + 1) = c.upTo run j := by
  rw [upTo,List.take_add_one,ended]
  simp [upTo]

theorem upToOrderly (orderly : c.Orderly) (i : Nat) : (c.upTo run i).Orderly :=
  afterOrderly orderly (run.take i)

theorem upToOnward {i j : Nat} (order : i ≤ j) : (c.upTo run i).Onward (c.upTo run j) := by
  have split := List.take_append_drop i (run.take j)
  rw [List.take_take,Nat.min_eq_left order] at split
  have later : c.upTo run j = (c.upTo run i).after ((run.take j).drop i) :=
    (congrArg c.after split.symm).trans (afterAppend c _ _)
  rw [later]
  exact afterOnward _ _

theorem openedAt {n : Nat} (unknown : c.nextTask ≤ n) {j : Nat} (given : n < (c.upTo run j).nextTask) :
    ∃ i < j, (c.upTo run i).nextTask ≤ n ∧ n < (c.upTo run (i + 1)).nextTask := by
  induction j with
  | zero => exact absurd given (Nat.not_lt_of_le unknown)
  | succ j ih =>
    by_cases before : n < (c.upTo run j).nextTask
    · obtain ⟨i,earlier,opened⟩ := ih before
      exact ⟨i,Nat.lt_succ_of_lt earlier,opened⟩
    · exact ⟨j,Nat.lt_succ_self j,Nat.le_of_not_lt before,given⟩

theorem openedBefore {n a j : Nat} (unknown : (c.upTo run a).nextTask ≤ n)
    (given : n < (c.upTo run j).nextTask) : a < j := by
  by_contra later
  have onward : (c.upTo run j).Onward (c.upTo run a) := upToOnward (Nat.le_of_not_lt later)
  exact absurd given (Nat.not_lt_of_le (Nat.le_trans onward.next unknown))

structure Successive (c : Coordinator τ) (run : List (τ × Step τ)) (key : String) (i j : Nat)
    (o o' : Origin) (a b : Nat) : Prop where
  order : i < j
  first : ∃ m data, run[i]? = some m ∧ Writing (c.upTo run i) key data m.2 o
  second : ∃ m data, run[j]? = some m ∧ Writing (c.upTo run j) key data m.2 o'
  started : Started c run i o a
  started' : Started c run j o' b

/-- The writes of a run under one key: every new entry is the data of a write, every write has a start,
and of two writes the later one has the later start, unless it is the write of a task and the other one
is of another kind. -/
structure Ordered (c : Coordinator τ) (run : List (τ × Step τ)) (key : String) : Prop where
  writes : ∀ j m e, run[j]? = some m → (c.upTo run (j + 1)).store.entries.get? key = some e →
    (c.upTo run j).store.entries.get? key ≠ some e → ∃ o, Writing (c.upTo run j) key e.data m.2 o
  starts : ∀ j m data o, run[j]? = some m → Writing (c.upTo run j) key data m.2 o →
    ∃ i ≤ j, Started c run j o i
  ordered : ∀ i j o o' a b, Successive c run key i j o o' a b →
    a < b ∧ (∀ x y, run[a]? = some x → run[b]? = some y → x.1 ≤ y.1) ∨ o' ≠ .set ∧ o.kind ≠ o'.kind

theorem momentsOrdered (clock : run.Pairwise fun x y => x.1 ≤ y.1) {a b : Nat} (order : a < b)
    {x y : τ × Step τ} (first : run[a]? = some x) (second : run[b]? = some y) : x.1 ≤ y.1 := by
  obtain ⟨fits,rfl⟩ := List.getElem?_eq_some_iff.mp first
  obtain ⟨fits',rfl⟩ := List.getElem?_eq_some_iff.mp second
  exact List.pairwise_iff_getElem.mp clock a b fits fits' order

theorem writesStart (orderly : c.Orderly) (fresh : c.nextTask = 0) {j : Nat} {key : String} {data : Value}
    {s : Step τ} {o : Origin} (writing : Writing (c.upTo run j) key data s o) :
    ∃ i ≤ j, Started c run j o i := by
  cases writing with
  | set options admitted => exact ⟨j,Nat.le_refl j,.set⟩
  | @task n t found current own =>
    have given := (afterOrderly orderly (run.take j)).numbered n t found
    obtain ⟨i,earlier,unknown,opened⟩ := openedAt (fresh ▸ Nat.zero_le n) given
    exact ⟨i,Nat.le_of_lt earlier,.task t.purpose unknown opened⟩

theorem writesFollow (orderly : c.Orderly) {i j : Nat} {key : String} {o o' : Origin} {a b : Nat}
    (writes : Successive c run key i j o o' a b) : a < b ∨ o' ≠ .set ∧ o.kind ≠ o'.kind := by
  obtain ⟨before,⟨⟨now,s⟩,data,here,wrote⟩,⟨⟨now',s'⟩,data',-,wrote'⟩,started,started'⟩ := writes
  have orderly' : (c.upTo run i).Orderly := afterOrderly orderly (run.take i)
  have next : c.upTo run (i + 1) = (c.upTo run i).step now s := upToNext here
  have onward : (c.upTo run (i + 1)).Onward (c.upTo run j) := upToOnward (Nat.succ_le_of_lt before)
  rw [next] at onward
  cases wrote' with
  | set options admitted =>
    cases started'
    left
    cases wrote with
    | set _ _ => cases started; exact before
    | @task n t found current own =>
      cases started with
      | task _ unknown _ =>
        exact Nat.lt_trans (openedBefore unknown (orderly'.numbered n t found)) before
  | @task n' t' found' current' own' =>
    cases wrote with
    | set _ _ => exact .inr ⟨fun bad => (by cases bad),fun bad => (by cases bad)⟩
    | @task n t found current own =>
      by_cases kind : t'.purpose = t.purpose
      · -- the later task got its number after the earlier one had written
        left
        have later := nextWriter orderly' found current onward found' current' (own'.trans own.symm) kind
        rw [← next] at later
        cases started with
        | task _ unknown _ =>
          cases started' with
          | task _ _ given' =>
            have first := openedBefore unknown (orderly'.numbered n t found)
            have second := openedBefore later given'
            omega
      · exact .inr ⟨fun bad => (by cases bad),fun same => kind (Option.some.inj same).symm⟩

theorem writesOrdered (store : Store τ) (rule : BreakerRule τ) (service : Service τ)
    (toleratesStale refusesSensitive : Bool) {run : List (τ × Step τ)} (names : ∀ m ∈ run, m.2.Keyed)
    (clock : run.Pairwise fun x y => x.1 ≤ y.1) (key : String) :
    Ordered (create store rule service toleratesStale refusesSensitive) run key := by
  have orderly := createOrderly store rule service toleratesStale refusesSensitive
  have keyed : (create store rule service toleratesStale refusesSensitive).Keyed :=
    fun n t found => by cases found
  refine ⟨fun j m e here found new => ?_,fun j m data o _ => writesStart orderly rfl,?_⟩
  · rw [upToNext here] at found
    exact newWriting (afterKeyed keyed fun k mem => names k (List.mem_of_mem_take mem)) found new
  · intro i j o o' a b writes
    rcases writesFollow orderly writes with order | apart
    · exact .inl ⟨order,fun x y => momentsOrdered clock order⟩
    · exact .inr apart

def overtaken : List (Number × Step Number) := [
  (.whole 1000,.fetch "a" (.str "k") userRequest),(.whole 1000,.begin 0),
  (.whole 1001,.set (.str "k") (.int 2) (.none Number)),
  (.whole 1002,.advance 0 (.returned (.int 1)))]

theorem overtakenOrdered : (∀ m ∈ overtaken, m.2.Keyed) ∧ (overtaken.Pairwise fun x y => x.1 ≤ y.1) ∧
    Ordered smallCache overtaken "k" := by
  have names : ∀ m ∈ overtaken, m.2.Keyed := by simp [overtaken,Step.Keyed]
  have clock : overtaken.Pairwise fun x y => x.1 ≤ y.1 := by decide
  exact ⟨names,clock,writesOrdered smallStore _ _ _ _ names clock "k"⟩

/-- What the fetch brings replaces what was set after the fetch had started. -/
theorem fetchedOverSet : ((smallCache.upTo overtaken 3).store.entries.get? "k").map (·.data) = some (.int 2) ∧
    ((smallCache.upTo overtaken 4).store.entries.get? "k").map (·.data) = some (.int 1) ∧
    ¬ ∀ i j o o' a b x y, Successive smallCache overtaken "k" i j o o' a b → overtaken[a]? = some x →
      overtaken[b]? = some y → x.1 ≤ y.1 := by
  refine ⟨rfl,rfl,fun monotone => ?_⟩
  have set : Writing (smallCache.upTo overtaken 2) "k" (.int 2)
      (.set (.str "k") (.int 2) (.none Number)) .set := .set _ rfl
  have found : (smallCache.upTo overtaken 3).tasks.get? 0 =
      some ⟨.fetch,"k","load",none,[.text "user"],none,"rpc",false,some ⟨"rpc",0,0⟩⟩ := rfl
  have fetched : Writing (smallCache.upTo overtaken 3) "k" (.int 1)
      (.advance 0 (.returned (.int 1))) (.task 0 .fetch) := .task found rfl rfl
  have writes : Successive smallCache overtaken "k" 2 3 .set (.task 0 .fetch) 2 0 :=
    ⟨by decide,⟨_,_,rfl,set⟩,⟨_,_,rfl,fetched⟩,.set,.task .fetch (by decide) (by decide)⟩
  exact absurd (monotone _ _ _ _ _ _ _ _ writes rfl rfl) (by decide)

end ReadThrough.Coordinator
