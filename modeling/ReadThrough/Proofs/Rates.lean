import ReadThrough.Meter
import ReadThrough.Proofs.Ordered
import ReadThrough.Proofs.Twin

/-! Rates per minute by the whole history. Counts that have left the window are dropped from the front of their
list, and only when somebody asks. As long as the clock does not go back the list is in order, so what is left of it
is what the window holds, and whether anybody has asked before makes no difference. -/
namespace ReadThrough.Meter

inductive Loss where
  | eviction
  | invalidation
  deriving DecidableEq

inductive Use where
  | hit (key : String)
  | staleHit (key : String)
  | miss (key : String)
  | evicted (key : String)
  | invalidated (count : Int) (reason : String)
  | renewed (key : String) (success : Bool)
  | sized (n : Int)
  | reset
  | rate (l : Loss)
  | health (given : Option (Thresholds Rat))

inductive Answer where
  | noted
  | rate (r : Rat)
  | remarks (rs : List Remark)

namespace Loss
variable {τ : Type} [Quantity τ]

omit [Quantity τ] in
def samples (m : Meter τ) : Loss → List (τ × Int)
  | eviction => m.evicted
  | invalidation => m.removed

def perMinute (now : τ) : Loss → Op (Meter τ) τ
  | eviction => evictionsPerMinute now
  | invalidation => invalidationsPerMinute now

def aged (now : τ) (m : Meter τ) : Loss → Meter τ
  | eviction => { m with evicted := m.expire now m.evicted }
  | invalidation => { m with removed := m.expire now m.removed }

theorem asks (l : Loss) (now : τ) (m : Meter τ) :
    l.perMinute now m = ((m.perMinute (m.expire now (l.samples m))).mapError Fault.of,l.aged now m) := by
  cases l <;> rfl

theorem agedSamples (l k : Loss) (now : τ) (m : Meter τ) :
    k.samples (l.aged now m) = if l = k then m.expire now (k.samples m) else k.samples m := by
  cases l <;> cases k <;> rfl

end Loss

namespace Use

def looks : Use → Bool
  | rate _ | health _ => true
  | _ => false

def ask (now : Rat) : Use → Op (Meter Rat) Answer
  | hit key => recordHit key >>= fun _ => pure .noted
  | staleHit key => recordStaleHit key >>= fun _ => pure .noted
  | miss key => recordMiss key >>= fun _ => pure .noted
  | evicted key => recordEviction now key >>= fun _ => pure .noted
  | invalidated count reason => recordInvalidation now count reason >>= fun _ => pure .noted
  | renewed key success => recordRevalidation key success >>= fun _ => pure .noted
  | sized n => setSize n >>= fun _ => pure .noted
  | reset => Op.change Meter.reset >>= fun _ => pure .noted
  | rate l => l.perMinute now >>= fun r => pure (.rate r)
  | health given => Meter.health now given >>= fun rs => pure (.remarks rs)

def loses : Loss → Use → Option Int
  | .eviction,evicted _ => some 1
  | .invalidation,invalidated count _ => if 0 < count then some count else none
  | _,_ => none

def recalls (l : Loss) (past : List (Rat × Int)) (now : Rat) : Use → List (Rat × Int)
  | reset => []
  | u => past ++ ((u.loses l).map fun n => (now,n)).toList

end Use

def after (m : Meter Rat) (run : List (Rat × Use)) : Meter Rat := run.foldl (fun m u => (u.2.ask u.1 m).2) m

def answers (m : Meter Rat) : List (Rat × Use) → List (Except Fault Answer)
  | [] => []
  | u :: rest => (u.2.ask u.1 m).1 :: (u.2.ask u.1 m).2.answers rest

def Loss.recalled (l : Loss) (run : List (Rat × Use)) : List (Rat × Int) :=
  run.foldl (fun past u => u.2.recalls l past u.1) []

def rateOf (history : List (Rat × Int)) (window now : Rat) : Rat :=
  ((history.filter fun s => now - window < s.1).map Prod.snd).sum * (60 / window)

/-! What a use does to the samples. -/

variable {m m' : Meter Rat} {now later : Rat}

theorem noted {σ : Type} (x : Op σ Unit) (s : σ) :
    ((x >>= fun _ => pure Answer.noted : Op σ Answer) s).2 = (x s).2 := Op.lastState (fun _ _ => rfl) x s

theorem answerMapped {σ α β : Type} (x : Op σ α) (g : α → β) (s : σ) :
    ((x >>= fun a => pure (g a) : Op σ β) s).1 = (x s).1.map g := by
  rw [Op.bind_apply]
  rcases x s with ⟨e | a,s'⟩ <;> rfl

theorem perMinuteOk (ticks : m.window ≠ 0) (samples : List (Rat × Int)) :
    m.perMinute samples = .ok ((total samples : Rat) * (60 / m.window)) := by
  have zero : Quantity.isZero m.window = false := decide_eq_false ticks
  rw [perMinute,zero]
  exact congrArg (fun r : Rat => Except.ok (_ * (r / m.window))) (by decide +kernel)

theorem rateAnswers (ticks : m.window ≠ 0) (l : Loss) (now : Rat) : l.perMinute now m =
    (.ok ((total (m.expire now (l.samples m)) : Rat) * (60 / m.window)),l.aged now m) := by
  rw [l.asks,perMinuteOk ticks]
  rfl

theorem healthAnswers (ticks : m.window ≠ 0) (now : Rat) (given : Option (Thresholds Rat)) : health now given m =
    (.ok ((given.getD m.thresholds).judge ⟨m.lookups,m.hitRate,m.size,m.capacity,
      (total (m.expire now m.evicted) : Rat) * (60 / m.window),
      (total (m.expire now m.removed) : Rat) * (60 / m.window)⟩),
      Loss.invalidation.aged now (Loss.eviction.aged now m)) := by
  have first := rateAnswers ticks .eviction now
  have second := @rateAnswers (Loss.eviction.aged now m) ticks .invalidation now
  exact (Op.bind_ok first).trans (Op.bind_ok second)

theorem reportSamples (e : Event) (l : Loss) (m : Meter Rat) : l.samples (report e m).2 = l.samples m := by
  have bare := reportBare e m
  cases l with
  | eviction => exact (congrArg Meter.evicted bare : (report e m).2.bare.evicted = m.bare.evicted)
  | invalidation => exact (congrArg Meter.removed bare : (report e m).2.bare.removed = m.bare.removed)

theorem askSamples (ticks : m.window ≠ 0) {u : Use} (goesOn : u ≠ .reset) (now : Rat) (l : Loss) :
    ∃ kept, (kept = l.samples m ∨ kept = m.expire now (l.samples m)) ∧
      l.samples (u.ask now m).2 = kept ++ ((u.loses l).map fun n => (now,n)).toList := by
  have told (e : Event) (counted : Meter Rat)
      (adds : l.samples counted = l.samples m ++ ((u.loses l).map fun n => (now,n)).toList) :
      l.samples (report e counted).2 = l.samples m ++ ((u.loses l).map fun n => (now,n)).toList :=
    (reportSamples e l counted).trans adds
  cases u with
  | reset => exact absurd rfl goesOn
  | rate k =>
    refine ⟨if k = l then m.expire now (l.samples m) else l.samples m,?_,?_⟩
    · split
      · exact .inr rfl
      · exact .inl rfl
    · rw [Use.ask,Op.lastState fun _ _ => rfl,k.asks,Loss.agedSamples]
      cases l <;> simp [Use.loses]
  | health given =>
    refine ⟨_,.inr rfl,?_⟩
    rw [Use.ask,Op.lastState fun _ _ => rfl,healthAnswers ticks]
    cases l <;> exact (List.append_nil _).symm
  | invalidated count reason =>
    refine ⟨_,.inl rfl,?_⟩
    rw [Use.ask,noted,recordInvalidation]
    split
    · cases l <;> simp [Use.loses,not_lt.mpr ‹count ≤ 0›]
    · refine told _ _ ?_
      cases l <;> simp [Loss.samples,Use.loses,not_le.mp ‹¬ count ≤ 0›]
  | renewed key success =>
    refine ⟨_,.inl rfl,?_⟩
    rw [Use.ask,noted]
    exact told _ _ (by cases success <;> cases l <;> exact (List.append_nil _).symm)
  | _ =>
    refine ⟨_,.inl rfl,?_⟩
    rw [Use.ask,noted]
    exact told _ _ (by cases l <;> simp [Loss.samples,Use.loses])

theorem askWindow (ticks : m.window ≠ 0) (u : Use) (now : Rat) : (u.ask now m).2.window = m.window := by
  have told (e : Event) (m : Meter Rat) : (report e m).2.window = m.window :=
    (congrArg Meter.window (reportBare e m) : (report e m).2.bare.window = m.bare.window)
  cases u with
  | rate l =>
    rw [Use.ask,Op.lastState fun _ _ => rfl,l.asks]
    cases l <;> rfl
  | health given => rw [Use.ask,Op.lastState fun _ _ => rfl,healthAnswers ticks]; rfl
  | reset => rfl
  | invalidated count reason =>
    rw [Use.ask,noted,recordInvalidation]
    split
    · rfl
    · exact told _ _
  | renewed key success =>
    rw [Use.ask,noted]
    exact (told _ _).trans (by cases success <;> rfl)
  | _ => exact (congrArg Meter.window (noted _ m)).trans (told _ _)

/-! Meters that differ in nothing but their samples. -/

inductive Peers (m : Meter Rat) : Meter Rat → Prop where
  | of (evicted removed : List (Rat × Int)) : Peers m { m with evicted := evicted, removed := removed }

theorem Peers.symm (peers : m.Peers m') : m'.Peers m := by
  obtain ⟨evicted,removed⟩ := peers
  exact .of m.evicted m.removed

theorem Peers.trans {m'' : Meter Rat} (peers : m.Peers m') (peers' : m'.Peers m'') : m.Peers m'' := by
  obtain ⟨_,_⟩ := peers
  obtain ⟨evicted,removed⟩ := peers'
  exact .of evicted removed

theorem agedPeers (l : Loss) (now : Rat) (m : Meter Rat) : m.Peers (l.aged now m) := by
  cases l <;> exact .of _ _

theorem reportTwins (e : Event) : Op.Twin Peers (report (τ := Rat) e) := by
  rintro ⟨_,_,_,sink,_⟩ _ ⟨evicted,removed⟩
  unfold Op.Agrees report
  cases sink with
  | exposition x =>
    dsimp only
    rcases x.report e with ⟨f | u,x'⟩ <;> exact ⟨rfl,.of _ _⟩
  | _ => exact ⟨rfl,.of _ _⟩

theorem changeTwins {f : Meter Rat → Meter Rat} (moves : ∀ m evicted removed,
    (f m).Peers (f { m with evicted := evicted, removed := removed })) : Op.Twin Peers (Op.change f) := by
  refine Op.twinChange ?_
  rintro m _ ⟨evicted,removed⟩
  exact moves m evicted removed

theorem askTwins {u : Use} (records : u.looks = false) (now : Rat) : Op.Twin Peers (u.ask now) := by
  have counted {f : Meter Rat → Meter Rat} (moves : ∀ m evicted removed,
      (f m).Peers (f { m with evicted := evicted, removed := removed })) (e : Event) :
      Op.Twin Peers (Op.change f >>= fun _ => report e) :=
    Op.twinBind (changeTwins moves) fun _ => reportTwins e
  have done {x : Op (Meter Rat) Unit} (twin : Op.Twin Peers x) : Op.Twin Peers (x >>= fun _ => pure Answer.noted) :=
    Op.twinBind twin fun _ => Op.twinPure _
  cases u with
  | rate | health => cases records
  | reset => exact done (changeTwins fun _ _ _ => .of _ _)
  | invalidated count reason =>
    refine done ?_
    unfold recordInvalidation
    split
    · exact Op.twinPure _
    · exact counted (fun _ _ _ => .of _ _) _
  | renewed key success =>
    refine done (counted (fun m evicted removed => ?_) _)
    cases success <;> exact .of evicted removed
  | _ => exact done (counted (fun _ _ _ => .of _ _) _)

/-! The meter beside the full history. -/

/-- Of an ordered history the meter has dropped nothing but what lies before some moment that has left the window. -/
structure Keeps (m : Meter Rat) (history : Loss → List (Rat × Int)) (now : Rat) : Prop where
  positive : 0 < m.window
  ordered : ∀ l, (history l).Pairwise (·.1 ≤ ·.1)
  past : ∀ l, ∀ s ∈ history l, s.1 ≤ now
  kept : ∀ l, ∃ horizon ≤ now - m.window, l.samples m = (history l).filter fun s => horizon < s.1

variable {history : Loss → List (Rat × Int)}

theorem dropFront {samples : List (Rat × Int)} (ordered : samples.Pairwise (·.1 ≤ ·.1)) (horizon : Rat) :
    samples.dropWhile (fun s => s.1 ≤ horizon) = samples.filter fun s => horizon < s.1 := by
  induction samples with
  | nil => rfl
  | cons s rest ih =>
    obtain ⟨least,ordered⟩ := List.pairwise_cons.mp ordered
    by_cases old : s.1 ≤ horizon
    · rw [List.dropWhile_cons_of_pos (by simpa using old),List.filter_cons_of_neg (by simpa using old),ih ordered]
    · have young : ∀ s' ∈ s :: rest, horizon < s'.1 := by
        intro s' mem
        rcases List.mem_cons.mp mem with rfl | later
        · exact not_le.mp old
        · exact lt_of_lt_of_le (not_le.mp old) (least s' later)
      rw [List.dropWhile_cons_of_neg (by simpa using old)]
      exact (List.filter_eq_self.mpr fun s' mem => by simpa using young s' mem).symm

theorem filterTwice {h h' : Rat} (less : h ≤ h') (samples : List (Rat × Int)) :
    (samples.filter fun s => h < s.1).filter (fun s => h' < s.1) = samples.filter fun s => h' < s.1 := by
  rw [List.filter_filter]
  refine List.filter_congr fun s _ => ?_
  by_cases inside : h' < s.1
  · simp [inside,lt_of_le_of_lt less inside]
  · simp [inside]

theorem Keeps.expired (keeps : m.Keeps history now) (onward : now ≤ later) (l : Loss) :
    m.expire later (l.samples m) = (history l).filter fun s => later - m.window < s.1 := by
  obtain ⟨horizon,old,same⟩ := keeps.kept l
  have older : horizon ≤ later - m.window := old.trans (sub_le_sub_right onward _)
  rw [same,← filterTwice older]
  exact dropFront ((keeps.ordered l).filter _) (later - m.window)

theorem Keeps.rate (keeps : m.Keeps history now) (onward : now ≤ later) (l : Loss) :
    (total (m.expire later (l.samples m)) : Rat) * (60 / m.window) = rateOf (history l) m.window later := by
  rw [keeps.expired onward l]
  rfl

theorem Keeps.asks (keeps : m.Keeps history now) (onward : now ≤ later) (l : Loss) :
    (l.perMinute later m).1 = .ok (rateOf (history l) m.window later) := by
  rw [rateAnswers keeps.positive.ne',keeps.rate onward l]

theorem Keeps.judges (keeps : m.Keeps history now) (onward : now ≤ later) (given : Option (Thresholds Rat)) :
    (health later given m).1 = .ok ((given.getD m.thresholds).judge ⟨m.lookups,m.hitRate,m.size,m.capacity,
      rateOf (history .eviction) m.window later,rateOf (history .invalidation) m.window later⟩) := by
  rw [healthAnswers keeps.positive.ne',← keeps.rate onward .eviction,← keeps.rate onward .invalidation]
  rfl

theorem Keeps.asked (keeps : m.Keeps history now) (onward : now ≤ later) (u : Use) :
    (u.ask later m).2.Keeps (fun l => u.recalls l (history l) later) later := by
  have same := askWindow keeps.positive.ne' u later
  by_cases restarts : u = .reset
  · subst restarts
    refine ⟨keeps.positive,fun _ => .nil,fun _ _ listed => (by cases listed),fun l => ⟨_,le_rfl,?_⟩⟩
    cases l <;> rfl
  · have recalled (l : Loss) : u.recalls l (history l) later =
        history l ++ ((u.loses l).map fun n => (later,n)).toList := by
      cases u <;> first | rfl | exact absurd rfl restarts
    refine ⟨same ▸ keeps.positive,fun l => ?_,fun l s listed => ?_,fun l => ?_⟩
    · rw [recalled]
      refine List.pairwise_append.mpr ⟨keeps.ordered l,by cases u.loses l <;> simp,fun s old s' new => ?_⟩
      obtain ⟨n,-,rfl⟩ := Option.map_eq_some_iff.mp (Option.mem_toList.mp new)
      exact (keeps.past l s old).trans onward
    · rw [recalled] at listed
      rcases List.mem_append.mp listed with old | new
      · exact (keeps.past l s old).trans onward
      · obtain ⟨n,-,rfl⟩ := Option.map_eq_some_iff.mp (Option.mem_toList.mp new)
        exact le_rfl
    · obtain ⟨kept,left,samples⟩ := askSamples keeps.positive.ne' restarts later l
      have within : ∃ horizon ≤ later - m.window, kept = (history l).filter fun s => horizon < s.1 := by
        rcases left with rfl | rfl
        · obtain ⟨horizon,old,same⟩ := keeps.kept l
          exact ⟨horizon,old.trans (sub_le_sub_right onward _),same⟩
        · exact ⟨_,le_rfl,keeps.expired onward l⟩
      obtain ⟨horizon,old,rfl⟩ := within
      refine ⟨horizon,same ▸ old,?_⟩
      -- what is counted now is inside the window, since the window is not empty
      have inside : horizon < later := old.trans_lt (sub_lt_self later keeps.positive)
      rw [samples,recalled,List.filter_append]
      cases u.loses l <;> simp [inside]

theorem lookPeers (ticks : m.window ≠ 0) {u : Use} (looks : u.looks) (now : Rat) : m.Peers (u.ask now m).2 := by
  cases u with
  | rate l =>
    rw [Use.ask,Op.lastState fun _ _ => rfl,l.asks]
    exact agedPeers l now m
  | health given =>
    rw [Use.ask,Op.lastState fun _ _ => rfl,healthAnswers ticks]
    exact (agedPeers .eviction now m).trans (agedPeers .invalidation now _)
  | _ => cases looks

theorem askSame (keeps : m.Keeps history now) (keeps' : m'.Keeps history now) (peers : m.Peers m')
    (onward : now ≤ later) (u : Use) :
    (u.ask later m).1 = (u.ask later m').1 ∧ (u.ask later m).2.Peers (u.ask later m').2 := by
  cases kind : u.looks with
  | false => exact askTwins kind later m m' peers
  | true =>
    refine ⟨?_,((lookPeers keeps.positive.ne' kind later).symm.trans peers).trans
      (lookPeers keeps'.positive.ne' kind later)⟩
    obtain ⟨evicted,removed⟩ := peers
    cases u with
    | rate l =>
      rw [Use.ask,answerMapped,answerMapped,keeps.asks onward l,keeps'.asks onward l]
    | health given => rw [Use.ask,answerMapped,answerMapped,keeps.judges onward given,keeps'.judges onward given]; rfl
    | _ => cases kind

theorem Keeps.onward (keeps : m.Keeps history now) (onward : now ≤ later) : m.Keeps history later where
  positive := keeps.positive
  ordered := keeps.ordered
  past l s listed := (keeps.past l s listed).trans onward
  kept l := by
    obtain ⟨horizon,old,same⟩ := keeps.kept l
    exact ⟨horizon,old.trans (sub_le_sub_right onward _),same⟩

/-! Runs. -/

theorem afterWindow (ticks : m.window ≠ 0) (run : List (Rat × Use)) : (m.after run).window = m.window := by
  induction run generalizing m with
  | nil => rfl
  | cons u rest ih =>
    have same := askWindow ticks u.2 u.1
    exact (ih (same ▸ ticks)).trans same

theorem afterKeeps {run : List (Rat × Use)} (keeps : m.Keeps history now)
    (onward : (now :: run.map Prod.fst ++ [later]).Pairwise (· ≤ ·)) :
    (m.after run).Keeps (fun l => run.foldl (fun past u => u.2.recalls l past u.1) (history l)) later := by
  induction run generalizing m history now with
  | nil => exact keeps.onward (by simpa using onward)
  | cons u rest ih =>
    obtain ⟨first,onward⟩ := List.pairwise_cons.mp onward
    exact ih (keeps.asked (first u.1 (by simp)) u.2) onward

theorem recallsLook {u : Use} (looks : u.looks) (l : Loss) (past : List (Rat × Int)) (now : Rat) :
    u.recalls l past now = past := by
  cases u with
  | rate | health => cases l <;> exact List.append_nil past
  | _ => cases looks

theorem afterLooks {looks : List (Rat × Use)} (only : ∀ u ∈ looks, u.2.looks) (keeps : m.Keeps history now)
    (onward : (now :: looks.map Prod.fst ++ [later]).Pairwise (· ≤ ·)) :
    m.Peers (m.after looks) ∧ (m.after looks).Keeps history later := by
  induction looks generalizing m now with
  | nil => exact ⟨.of m.evicted m.removed,keeps.onward (by simpa using onward)⟩
  | cons u rest ih =>
    obtain ⟨first,onward⟩ := List.pairwise_cons.mp onward
    have look := only u List.mem_cons_self
    have asked := keeps.asked (first u.1 (by simp)) u.2
    simp only [recallsLook look] at asked
    obtain ⟨peers,kept⟩ := ih (fun u listed => only u (List.mem_cons_of_mem _ listed)) asked onward
    exact ⟨(lookPeers keeps.positive.ne' look u.1).trans peers,kept⟩

theorem answersSame {run : List (Rat × Use)} (keeps : m.Keeps history now) (keeps' : m'.Keeps history now)
    (peers : m.Peers m') (onward : (now :: run.map Prod.fst).Pairwise (· ≤ ·)) : m.answers run = m'.answers run := by
  induction run generalizing m m' history now with
  | nil => rfl
  | cons u rest ih =>
    obtain ⟨first,onward⟩ := List.pairwise_cons.mp onward
    have next := first u.1 (by simp)
    obtain ⟨same,peers⟩ := askSame keeps keeps' peers next u.2
    exact congrArg₂ List.cons same (ih (keeps.asked next u.2) (keeps'.asked next u.2) peers onward)

theorem looksUnseen {before looks rest : List (Rat × Use)} (only : ∀ u ∈ looks, u.2.looks)
    (keeps : m.Keeps history now) (onward : (now :: (before ++ (looks ++ rest)).map Prod.fst).Pairwise (· ≤ ·)) :
    (m.after (before ++ looks)).answers rest = (m.after before).answers rest := by
  induction before generalizing m history now with
  | nil =>
    cases rest with
    | nil => rfl
    | cons u rest =>
      rw [List.nil_append,List.map_append,← List.cons_append] at onward
      obtain ⟨within,ordered,before⟩ := List.pairwise_append.mp onward
      obtain ⟨next,-⟩ := List.pairwise_cons.mp ordered
      have last : (now :: looks.map Prod.fst ++ [u.1]).Pairwise (· ≤ ·) :=
        List.pairwise_append.mpr ⟨within,by simp,fun t mem t' last =>
          List.mem_singleton.mp last ▸ before t mem _ (by simp)⟩
      obtain ⟨peers,keeps'⟩ := afterLooks only keeps last
      have keeps := keeps.onward (before now List.mem_cons_self u.1 List.mem_cons_self)
      exact (answersSame keeps keeps' peers (List.pairwise_cons.mpr ⟨by simpa using next,ordered⟩)).symm
  | cons v before ih =>
    obtain ⟨first,onward⟩ := List.pairwise_cons.mp onward
    exact ih (keeps.asked (first v.1 List.mem_cons_self) v.2) onward

theorem createKeeps {window : Rat} (positive : 0 < window) (capacity : Int) (thresholds : Thresholds Rat)
    (sink : Sink Rat) (now : Rat) : (create capacity window thresholds sink).Keeps (fun _ => []) now :=
  ⟨positive,fun _ => .nil,fun _ _ listed => (by cases listed),fun l => ⟨_,le_rfl,by cases l <;> rfl⟩⟩

theorem startBefore {readings : List Rat} (ordered : readings.Pairwise (· ≤ ·)) :
    ∃ start, (start :: readings).Pairwise (· ≤ ·) := by
  cases readings with
  | nil => exact ⟨0,by simp⟩
  | cons t rest => exact ⟨t,List.pairwise_cons.mpr ⟨by simpa using (List.pairwise_cons.mp ordered).1,ordered⟩⟩

/-- In every run whose clock does not go back, the rates of a new meter are those of all that was counted since the
last reset, and questions that are put in change no later answer. -/
theorem ratesExact {window : Rat} (positive : 0 < window) (capacity : Int) (thresholds : Thresholds Rat)
    (sink : Sink Rat) {run : List (Rat × Use)} {now : Rat}
    (onward : (run.map Prod.fst ++ [now]).Pairwise (· ≤ ·)) :
    let m := create capacity window thresholds sink
    (∀ l : Loss, (l.perMinute now (m.after run)).1 = .ok (rateOf (l.recalled run) window now)) ∧
      ∀ before looks rest, run = before ++ looks ++ rest → (∀ u ∈ looks, u.2.looks) →
        (m.after (before ++ looks)).answers rest = (m.after before).answers rest := by
  intro m
  obtain ⟨start,onward⟩ := startBefore onward
  have keeps : m.Keeps (fun _ => []) start := createKeeps positive capacity thresholds sink start
  refine ⟨fun l => ?_,?_⟩
  · have asked := (afterKeeps keeps onward).asks le_rfl l
    rwa [afterWindow positive.ne'] at asked
  · rintro before looks rest rfl only
    rw [← List.cons_append,List.append_assoc] at onward
    exact looksUnseen only keeps (List.pairwise_append.mp onward).1

def fortyMeter : Meter Rat := .create 10 40 ⟨1/2,9/10,30,60,20⟩ .refusing

def busyMinute : List (Rat × Use) := [(0,.evicted "a"),(10,.invalidated 4 "tag"),(20,.invalidated (-2) "tag")]

def askedMinute : List (Rat × Use) := [(20,.rate .eviction),(30,.health none)]

def restMinute : List (Rat × Use) := [(30,.evicted "b"),(35,.rate .invalidation),(40,.health none)]

theorem fortyRates : (0 : Rat) < 40 ∧
    ((busyMinute ++ askedMinute ++ restMinute).map Prod.fst ++ [40]).Pairwise (· ≤ ·) ∧
    (Loss.eviction.perMinute 40 (fortyMeter.after (busyMinute ++ askedMinute ++ restMinute))).1 = .ok (3/2) ∧
    (Loss.invalidation.perMinute 40 (fortyMeter.after (busyMinute ++ askedMinute ++ restMinute))).1 = .ok 6 ∧
    (fortyMeter.after (busyMinute ++ askedMinute)).answers restMinute =
      (fortyMeter.after busyMinute).answers restMinute := by
  have ordered : ((busyMinute ++ askedMinute ++ restMinute).map Prod.fst ++ [40]).Pairwise (· ≤ ·) := by
    decide +kernel
  have positive : (0 : Rat) < 40 := by decide
  obtain ⟨rates,same⟩ := ratesExact positive 10 ⟨1/2,9/10,30,60,20⟩ .refusing ordered
  have evictions : rateOf (Loss.eviction.recalled (busyMinute ++ askedMinute ++ restMinute)) 40 40 = 3/2 := by
    decide +kernel
  have invalidations : rateOf (Loss.invalidation.recalled (busyMinute ++ askedMinute ++ restMinute)) 40 40 = 6 := by
    decide +kernel
  refine ⟨positive,ordered,?_,?_,same _ _ _ rfl (by decide)⟩
  · rw [← evictions]
    exact rates .eviction
  · rw [← invalidations]
    exact rates .invalidation

end ReadThrough.Meter
