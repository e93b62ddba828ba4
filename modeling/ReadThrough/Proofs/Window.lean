import ReadThrough.Proofs.Outcome

/-! The limiter by the whole history. It drops the moments that have left the window whenever it comes upon
them, at a check or a clean-up. What counts at a later reading of the clock is the same as if nothing had been
dropped, as long as the clock does not go back. -/
namespace ReadThrough
variable {τ : Type} [Quantity τ]

def Quantity.Ages (window : τ) (known : List τ) (now later : τ) : Prop :=
  ∀ t ∈ known, later - t < window → now - t < window

def Quantity.Steady (window : τ) (readings : List τ) : Prop :=
  readings.Pairwise (Quantity.Ages window readings)

instance (window : τ) (known : List τ) (now later : τ) : Decidable (Quantity.Ages window known now later) :=
  inferInstanceAs (Decidable (∀ t ∈ known, _))

instance (window : τ) (readings : List τ) : Decidable (Quantity.Steady window readings) :=
  inferInstanceAs (Decidable (readings.Pairwise _))

theorem Number.wholeSteady {readings : List Int} (ordered : readings.Pairwise (· ≤ ·)) (window : Int) :
    Quantity.Steady (.whole window) (readings.map Number.whole) := by
  refine List.pairwise_map.mpr (ordered.imp fun {a b} le t known inside => ?_)
  obtain ⟨n,-,rfl⟩ := List.mem_map.mp known
  have inside : decide (b - n < window) = true := inside
  have nearer : a - n ≤ b - n := Int.sub_le_sub_right le n
  exact (decide_eq_true (Int.lt_of_le_of_lt nearer (of_decide_eq_true inside)) :)

namespace Limiter

inductive Use where
  | check (key : String)
  | cleanup
  | resetKey (key : String)
  | reset
  deriving DecidableEq

def Use.concerns (key : String) : Use → Bool
  | .check k | .resetKey k => k = key
  | .cleanup => false
  | .reset => true

def Use.effect (key : String) (admits : Bool) (now : τ) (past : List τ) : Use → List τ
  | .check k => if k = key ∧ admits then past ++ [now] else past
  | .cleanup => past
  | .resetKey k => if k = key then [] else past
  | .reset => []

def use (l : Limiter τ) (now : τ) : Use → Limiter τ
  | .check key => (l.check now key).2
  | .cleanup => (l.cleanup now).2
  | .resetKey key => l.resetKey key
  | .reset => l.reset

def after (l : Limiter τ) (run : List (τ × Use)) : Limiter τ := run.foldl (fun l m => l.use m.1 m.2) l

def answers (l : Limiter τ) (now : τ) : Use → List (String × Bool)
  | .check key => [(key,(l.check now key).1)]
  | _ => []

def decisions (l : Limiter τ) : List (τ × Use) → List (String × Bool)
  | [] => []
  | (now,u) :: rest => l.answers now u ++ (l.use now u).decisions rest

def recalls (l : Limiter τ) (key : String) (past : List τ) : List (τ × Use) → List τ
  | [] => past
  | (now,u) :: rest => (l.use now u).recalls key (u.effect key (l.check now key).1 now past) rest

def admitted (l : Limiter τ) (run : List (τ × Use)) (key : String) : List τ := l.recalls key [] run

omit [Quantity τ] in
def moments (l : Limiter τ) (key : String) : List τ := (l.seen.get? key).getD []

structure Fit (known : List τ) (l : Limiter τ) : Prop where
  distinct : l.seen.Distinct
  known : ∀ key, ∀ t ∈ l.moments key, t ∈ known
  few : 0 < l.ceiling → ∀ key, ((l.moments key).length : Int) ≤ l.ceiling

variable {known : List τ} {l l' : Limiter τ} {now later : τ} {key : String}

omit [Quantity τ] in
theorem createFit (ceiling : Int) (window : τ) : (create ceiling window).Fit known :=
  ⟨Assoc.emptyDistinct,fun _ _ listed => (by cases listed),fun limits _ => Int.le_of_lt limits⟩

theorem useTerms (l : Limiter τ) (now : τ) (u : Use) :
    (l.use now u).ceiling = l.ceiling ∧ (l.use now u).window = l.window := by
  cases u with
  | check key => exact checkCeiling l now key
  | _ => exact ⟨rfl,rfl⟩

theorem checkMoments (limits : 0 < l.ceiling) (k : String) :
    (l.use now (.check k)).moments key = if k = key then
      l.recent now (l.moments key) ++ (if (l.check now key).1 then [now] else []) else l.moments key := by
  have enabled : l.isEnabled = true := decide_eq_true limits
  by_cases same : k = key
  · subst same
    simp only [use,check,enabled,if_true]
    split <;> simp [moments,Assoc.get?_put]
  · simp only [use,check,enabled,if_true,if_neg same]
    split <;> simp [moments,Assoc.get?_put,same]

omit [Quantity τ] in
theorem valuesGet {α β : Type} (f : α → β) (entries : List (String × α)) :
    Assoc.find key (entries.map fun e => (e.1,f e.2)) = (Assoc.find key entries).map f := by
  induction entries with
  | nil => rfl
  | cons e rest ih =>
    by_cases same : e.1 = key <;> simp [Assoc.find,same,ih]

theorem prunedDistinct (distinct : l.seen.Distinct) :
    (⟨l.seen.entries.map fun e => (e.1,l.recent now e.2)⟩ : Assoc String (List τ)).Distinct := by
  unfold Assoc.Distinct Assoc.keys
  rw [List.map_map]
  exact distinct

theorem cleanupMoments (distinct : l.seen.Distinct) :
    (l.use now .cleanup).moments key = l.recent now (l.moments key) := by
  have kept := Assoc.getFilter (@prunedDistinct τ _ l now distinct) (fun ts => !ts.isEmpty) key
  have pruned : (⟨l.seen.entries.map fun e => (e.1,l.recent now e.2)⟩ : Assoc String (List τ)).get? key =
      (l.seen.get? key).map (l.recent now) := valuesGet _ _
  rw [pruned] at kept
  change (Assoc.get? ⟨_⟩ key).getD [] = _
  rw [kept,moments]
  cases l.seen.get? key with
  | none => rfl
  | some ts => cases left : l.recent now ts <;> simp [left,Option.filter_some]

omit [Quantity τ] in
theorem resetMoments (k : String) : (l.resetKey k).moments key = if k = key then [] else l.moments key := by
  unfold resetKey moments
  rw [Assoc.get?_erase]
  split <;> rfl

theorem idleCheck (unlimited : ¬ 0 < l.ceiling) (k : String) : l.use now (.check k) = l := by
  have idle : l.check now k = (true,l) := if_neg (by simpa [isEnabled] using unlimited)
  rw [use,idle]

theorem useDistinct (distinct : l.seen.Distinct) (u : Use) : (l.use now u).seen.Distinct := by
  cases u with
  | check k =>
    simp only [use,check]
    split
    · split <;> exact Assoc.putDistinct distinct _ _
    · exact distinct
  | cleanup => exact Assoc.filterDistinct (prunedDistinct distinct) _
  | resetKey k => exact Assoc.eraseDistinct distinct k
  | reset => exact Assoc.emptyDistinct

theorem useMoments (distinct : l.seen.Distinct) (u : Use) {t : τ} (listed : t ∈ (l.use now u).moments key) :
    t ∈ l.moments key ∨ t = now := by
  cases u with
  | check k =>
    by_cases limits : 0 < l.ceiling
    · rw [checkMoments limits] at listed
      split at listed
      · rcases List.mem_append.mp listed with old | new
        · exact .inl (List.mem_filter.mp old).1
        · split at new
          · exact .inr (List.mem_singleton.mp new)
          · cases new
      · exact .inl listed
    · rw [idleCheck limits] at listed
      exact .inl listed
  | cleanup =>
    rw [cleanupMoments distinct] at listed
    exact .inl (List.mem_filter.mp listed).1
  | resetKey k =>
    rw [use,resetMoments] at listed
    split at listed
    · cases listed
    · exact .inl listed
  | reset => cases listed

theorem useFew (distinct : l.seen.Distinct) (limits : 0 < l.ceiling) (u : Use)
    (few : ((l.moments key).length : Int) ≤ l.ceiling) : ((l.use now u).moments key).length ≤ l.ceiling := by
  have fewer : (l.recent now (l.moments key)).length ≤ (l.moments key).length := List.length_filter_le _ _
  cases u with
  | check k =>
    rw [checkMoments limits]
    split
    · cases passes : (l.check now key).1 with
      | false =>
        simp only [Bool.false_eq_true,if_false,List.append_nil]
        omega
      | true =>
        have room : ((l.recent now (l.moments key)).length : Int) < l.ceiling := (checkIff l now key).mp passes limits
        simp only [if_true,List.length_append,List.length_singleton]
        omega
    · exact few
  | cleanup =>
    rw [cleanupMoments distinct]
    omega
  | resetKey k =>
    rw [use,resetMoments]
    split
    · exact Int.le_of_lt limits
    · exact few
  | reset => exact Int.le_of_lt limits

theorem useFit (fit : l.Fit known) (read : now ∈ known) (u : Use) : (l.use now u).Fit known := by
  refine ⟨useDistinct fit.distinct u,fun key t listed => ?_,fun limits key => ?_⟩
  · rcases useMoments fit.distinct u listed with old | rfl
    · exact fit.known key t old
    · exact read
  · rw [(useTerms l now u).1] at limits ⊢
    exact useFew fit.distinct limits u (fit.few limits key)

/-! What counts at a later reading. -/

theorem recentAgain (ages : Quantity.Ages l.window known now later) {past : List τ}
    (old : ∀ t ∈ past, t ∈ known) : l.recent later (l.recent now past) = l.recent later past := by
  unfold recent
  rw [List.filter_filter]
  refine List.filter_congr fun t listed => ?_
  have keeps := ages t (old t listed)
  by_cases inside : later - t < l.window
  · simp [inside,keeps inside]
  · simp [inside]

theorem recentUse (u : Use) (past : List τ) : (l.use now u).recent later past = l.recent later past := by
  unfold recent
  rw [(useTerms l now u).2]

theorem effectRecent (u : Use) (admits : Bool) {past past' : List τ}
    (same : l.recent later past = l.recent later past') :
    l.recent later (u.effect key admits now past) = l.recent later (u.effect key admits now past') := by
  cases u with
  | check k =>
    simp only [Use.effect]
    split
    · unfold recent at same ⊢
      rw [List.filter_append,List.filter_append,same]
    · exact same
  | cleanup => exact same
  | resetKey k =>
    simp only [Use.effect]
    split
    · rfl
    · exact same
  | reset => rfl

theorem useRecent (limits : 0 < l.ceiling) (fit : l.Fit known) (ages : Quantity.Ages l.window known now later)
    (u : Use) : l.recent later ((l.use now u).moments key) =
      l.recent later (u.effect key (l.check now key).1 now (l.moments key)) := by
  cases u with
  | check k =>
    rw [checkMoments limits,Use.effect]
    by_cases same : k = key
    · rw [if_pos same]
      cases (l.check now key).1 with
      | false =>
        simp only [Bool.false_eq_true,if_false,List.append_nil,and_false]
        exact recentAgain ages (fit.known key)
      | true =>
        have again := recentAgain ages (fit.known key)
        simp only [same,if_true,and_self]
        unfold recent at again ⊢
        rw [List.filter_append,List.filter_append,again]
    · rw [if_neg same,if_neg fun h => same h.1]
  | cleanup =>
    rw [cleanupMoments fit.distinct]
    exact recentAgain ages (fit.known key)
  | resetKey k => rw [use,resetMoments,Use.effect]
  | reset => rfl

theorem recallsRecent {past : List τ} {run : List (τ × Use)} (limits : 0 < l.ceiling) (fit : l.Fit known)
    (read : ∀ t ∈ run.map Prod.fst, t ∈ known)
    (steady : (run.map Prod.fst ++ [now]).Pairwise (Quantity.Ages l.window known))
    (same : ∀ t ∈ run.map Prod.fst ++ [now], l.recent t (l.moments key) = l.recent t past) :
    l.recent now ((l.after run).moments key) = l.recent now (l.recalls key past run) := by
  -- what is kept and what is recalled differ, but not in what counts at any later reading
  induction run generalizing l past with
  | nil => exact same now List.mem_cons_self
  | cons m rest ih =>
    obtain ⟨first,u⟩ := m
    obtain ⟨ages,steady⟩ := List.pairwise_cons.mp steady
    have terms := useTerms l first u
    have onward := @ih (l.use first u) (u.effect key (l.check first key).1 first past) (by omega)
      (useFit fit (read first List.mem_cons_self) u) (fun t later => read t (List.mem_cons_of_mem _ later))
      (by rw [terms.2]; exact steady) ?_
    · rw [recentUse,recentUse] at onward
      exact onward
    · intro t later
      rw [recentUse,recentUse,useRecent limits fit (ages t later)]
      exact effectRecent u _ (same t (List.mem_cons_of_mem _ later))

/-! Uses that a key does not notice. -/

omit [Quantity τ] in
theorem effectAside {u : Use} (aside : u.concerns key = false) (admits : Bool) (past : List τ) :
    u.effect key admits now past = past := by
  cases u with
  | check k => exact if_neg fun h => by simp [Use.concerns,h.1] at aside
  | cleanup => rfl
  | resetKey k => exact if_neg (by simpa [Use.concerns] using aside)
  | reset => cases aside

def Alike (l l' : Limiter τ) (key : String) (later : τ) : Prop :=
  0 < l.ceiling → l.recent later (l.moments key) = l.recent later (l'.moments key)

theorem alikeChecks (terms : l'.ceiling = l.ceiling ∧ l'.window = l.window) (alike : Alike l l' key now) :
    (l.check now key).1 = (l'.check now key).1 := by
  refine Bool.eq_iff_iff.mpr ((checkIff l now key).trans (Iff.trans ?_ (checkIff l' now key).symm))
  unfold HasRoom
  rw [terms.1]
  have same (limits : 0 < l.ceiling) :
      l.recent now ((l.seen.get? key).getD []) = l'.recent now ((l'.seen.get? key).getD []) := by
    refine (alike limits).trans ?_
    unfold recent
    rw [terms.2]
    rfl
  exact ⟨fun room limits => same limits ▸ room limits,fun room limits => same limits ▸ room limits⟩

theorem useAlike (terms : l'.ceiling = l.ceiling ∧ l'.window = l.window) (fit : l.Fit known) (fit' : l'.Fit known)
    (ages : Quantity.Ages l.window known now later) (u : Use) (checks : Alike l l' key now)
    (alike : Alike l l' key later) : Alike (l.use now u) (l'.use now u) key later := by
  intro limits
  rw [(useTerms l now u).1] at limits
  have other := @useRecent τ _ known l' now later key (terms.1 ▸ limits) fit' (terms.2.symm ▸ ages) u
  have view (past : List τ) : l'.recent later past = l.recent later past := by
    unfold recent
    rw [terms.2]
  rw [view,view] at other
  rw [recentUse,recentUse,useRecent limits fit ages,other,alikeChecks terms checks]
  exact effectRecent u _ (alike limits)

theorem asideAlike (fit : l.Fit known) (ages : Quantity.Ages l.window known now later) {u : Use}
    (aside : u.concerns key = false) (alike : Alike l l' key later) : Alike (l.use now u) l' key later := by
  intro limits
  rw [(useTerms l now u).1] at limits
  rw [recentUse,recentUse,useRecent limits fit ages,effectAside aside]
  exact alike limits

theorem decisionsKept {keep : Use → Bool} {keys : String → Bool}
    (aside : ∀ u, keep u = false → ∀ key, keys key = true → u.concerns key = false) {run : List (τ × Use)}
    (terms : l'.ceiling = l.ceiling ∧ l'.window = l.window) (fit : l.Fit known) (fit' : l'.Fit known)
    (read : ∀ t ∈ run.map Prod.fst, t ∈ known) (steady : (run.map Prod.fst).Pairwise (Quantity.Ages l.window known))
    (alike : ∀ key, keys key = true → ∀ t ∈ run.map Prod.fst, Alike l l' key t) :
    (l.decisions run).filter (keys ·.1) = (l'.decisions (run.filter (keep ·.2))).filter (keys ·.1) := by
  -- the two limiters come apart in what they hold of the other keys, so both vary along the run
  induction run generalizing l l' with
  | nil => rfl
  | cons m rest ih =>
    obtain ⟨now,u⟩ := m
    obtain ⟨ages,steady⟩ := List.pairwise_cons.mp steady
    have readNow := read now List.mem_cons_self
    have read' := fun t later => read t (List.mem_cons_of_mem now later)
    have first := fun key mine => alike key mine now List.mem_cons_self
    have onward := fun key mine t later => alike key mine t (List.mem_cons_of_mem now later)
    rw [decisions,List.filter_append]
    cases kept : keep u with
    | true =>
      rw [List.filter_cons_of_pos (by exact kept),decisions,List.filter_append]
      congr 1
      · cases u with
        | check key =>
          cases mine : keys key with
          | false => simp [answers,mine]
          | true => simp [answers,mine,alikeChecks terms (first key mine)]
        | _ => rfl
      · have terms' := useTerms l' now u
        refine ih ?_ (useFit fit readNow u) (useFit fit' readNow u) read' ?_ fun key mine t later => ?_
        · rw [terms'.1,terms'.2,(useTerms l now u).1,(useTerms l now u).2]
          exact terms
        · rw [(useTerms l now u).2]
          exact steady
        · exact useAlike terms fit fit' (ages t later) u (first key mine) (onward key mine t later)
    | false =>
      rw [List.filter_cons_of_neg (by simp [kept])]
      have silent : (l.answers now u).filter (keys ·.1) = [] := by
        cases u with
        | check key =>
          cases mine : keys key with
          | false => simp [answers,mine]
          | true => exact absurd (aside _ kept key mine) (by simp [Use.concerns])
        | _ => rfl
      rw [silent,List.nil_append]
      refine ih ?_ (useFit fit readNow u) fit' read' ?_ fun key mine t later => ?_
      · rw [(useTerms l now u).1,(useTerms l now u).2]
        exact terms
      · rw [(useTerms l now u).2]
        exact steady
      · exact asideAlike fit (ages t later) (aside u kept key mine) (onward key mine t later)

/-! Runs. -/

theorem afterFit (fit : l.Fit known) {run : List (τ × Use)} (read : ∀ t ∈ run.map Prod.fst, t ∈ known) :
    (l.after run).Fit known ∧ (l.after run).ceiling = l.ceiling ∧ (l.after run).window = l.window := by
  induction run generalizing l with
  | nil => exact ⟨fit,rfl,rfl⟩
  | cons m rest ih =>
    have terms := useTerms l m.1 m.2
    have onward := ih (useFit fit (read m.1 List.mem_cons_self) m.2)
      fun t later => read t (List.mem_cons_of_mem _ later)
    rw [terms.1,terms.2] at onward
    exact onward

section
variable {run : List (τ × Use)} (fit : l.Fit known)
  (read : ∀ t ∈ run.map Prod.fst, t ∈ known)
include fit read

section
variable (fresh : l.moments key = []) (steady : (run.map Prod.fst ++ [now]).Pairwise (Quantity.Ages l.window known))
include fresh steady

theorem admittedCounts (limits : 0 < l.ceiling) : (l.after run).recent now ((l.after run).moments key) =
    (l.admitted run key).filter (fun t => now - t < l.window) := by
  have kept := @recallsRecent τ _ known l now key [] run limits fit read steady fun _ _ => by rw [fresh]
  unfold recent at kept ⊢
  rw [(afterFit fit read).2.2]
  exact kept

theorem admitsIff : ((l.after run).check now key).1 = true ↔ l.ceiling ≤ 0 ∨
    (((l.admitted run key).filter (fun t => now - t < l.window)).length : Int) < l.ceiling := by
  refine (checkIff _ now key).trans ?_
  unfold HasRoom
  rw [(afterFit fit read).2.1]
  by_cases limits : 0 < l.ceiling
  · have counted := admittedCounts fit read fresh steady limits
    unfold moments at counted
    rw [counted]
    exact ⟨fun room => .inr (room limits),fun few _ => few.resolve_left (by omega)⟩
  · exact ⟨fun _ => .inl (by omega),fun _ some => absurd some limits⟩

theorem admittedFew (limits : 0 < l.ceiling) :
    (((l.admitted run key).filter (fun t => now - t < l.window)).length : Int) ≤ l.ceiling := by
  obtain ⟨fit',ceiling,-⟩ := afterFit fit read
  have few := fit'.few (by rw [ceiling]; exact limits) key
  rw [ceiling] at few
  rw [← admittedCounts fit read fresh steady limits]
  exact Int.le_trans (Int.ofNat_le.mpr (List.length_filter_le _ _)) few

end

omit [Quantity τ] fit read in
theorem filterAll {α : Type} (xs : List α) : xs.filter (fun _ => true) = xs :=
  List.filter_eq_self.mpr fun _ _ => rfl

theorem decisionsAlike (terms : l'.ceiling = l.ceiling ∧ l'.window = l.window) (fit' : l'.Fit known)
    (steady : (run.map Prod.fst).Pairwise (Quantity.Ages l.window known))
    (alike : ∀ key, ∀ t ∈ run.map Prod.fst, Alike l l' key t) : l.decisions run = l'.decisions run := by
  have kept := @decisionsKept τ _ known l l' (fun _ => true) (fun _ => true)
    (fun _ dropped => by cases dropped) run terms fit fit' read steady fun key _ => alike key
  rwa [filterAll,filterAll,filterAll] at kept

theorem refusedCounts {moment : τ} {k : String}
    (steady : ((moment :: run.map Prod.fst)).Pairwise (Quantity.Ages l.window known)) (known' : moment ∈ known)
    (refuses : (l.check moment k).1 = false) : (l.check moment k).2.decisions run = l.decisions run := by
  obtain ⟨ages,steady⟩ := List.pairwise_cons.mp steady
  have terms := useTerms l moment (.check k)
  refine decisionsAlike (l := l.use moment (.check k)) (useFit fit known' _) read ⟨terms.1.symm,terms.2.symm⟩ fit
    (by rw [terms.2]; exact steady) fun key t later limits => ?_
  rw [terms.1] at limits
  rw [recentUse,recentUse,useRecent limits fit (ages t later)]
  congr 1
  refine if_neg fun admits => ?_
  obtain ⟨rfl,admits⟩ := admits
  rw [refuses] at admits
  cases admits

end

theorem decisionsConcerned (l : Limiter τ) (key : String) (run : List (τ × Use)) :
    (l.decisions (run.filter (·.2.concerns key))).filter (·.1 = key) =
      l.decisions (run.filter (·.2.concerns key)) := by
  refine List.filter_eq_self.mpr ?_
  induction run generalizing l with
  | nil => exact fun _ listed => by cases listed
  | cons m rest ih =>
    rw [List.filter_cons]
    split
    · rename_i concerned
      intro d listed
      rcases List.mem_append.mp listed with first | later
      · obtain ⟨now,u⟩ := m
        cases u with
        | check k =>
          rw [List.mem_singleton.mp first]
          exact concerned
        | _ => cases first
      · exact ih _ d later
    · exact ih l

/-- The decisions of a limiter on a run, and on a check that follows it, by the accesses it has admitted since
the key was last reset. Clean-ups, refused accesses and the uses of other keys do not matter. -/
structure Exact (ceiling : Int) (window : τ) (run : List (τ × Use)) (now : τ) : Prop where
  admits : ∀ key, (((create ceiling window).after run).check now key).1 = true ↔ ceiling ≤ 0 ∨
    ((((create ceiling window).admitted run key).filter (fun t => now - t < window)).length : Int) < ceiling
  bounded : 0 < ceiling → ∀ key,
    ((((create ceiling window).admitted run key).filter (fun t => now - t < window)).length : Int) ≤ ceiling
  refused : ∀ before moment key later, run = before ++ (moment,.check key) :: later →
    (((create ceiling window).after before).check moment key).1 = false →
    (((create ceiling window).after before).check moment key).2.decisions later =
      ((create ceiling window).after before).decisions later
  apart : ∀ key, ((create ceiling window).decisions run).filter (·.1 = key) =
    (create ceiling window).decisions (run.filter (·.2.concerns key))
  cleaned : (create ceiling window).decisions (run.filter (·.2 ≠ .cleanup)) =
    (create ceiling window).decisions run

theorem slidesExactly (ceiling : Int) {window : τ} {run : List (τ × Use)} {now : τ}
    (steady : Quantity.Steady window (run.map Prod.fst ++ [now])) : Exact ceiling window run now := by
  generalize readings : run.map Prod.fst ++ [now] = known at steady
  have read : ∀ t ∈ run.map Prod.fst, t ∈ known := fun t listed => readings ▸ List.mem_append_left _ listed
  have onward : (run.map Prod.fst ++ [now]).Pairwise (Quantity.Ages window known) := by
    rw [readings]
    exact steady
  have within : (run.map Prod.fst).Pairwise (Quantity.Ages window known) := (List.pairwise_append.mp onward).1
  have fit : (create ceiling window).Fit known := createFit ceiling window
  refine ⟨fun key => admitsIff fit read rfl onward,fun limits key => admittedFew fit read rfl onward limits,
    ?_,fun key => ?_,?_⟩
  · rintro before moment key later rfl refuses
    rw [List.map_append] at read within
    obtain ⟨fit',-,same⟩ := afterFit fit fun t listed => read t (List.mem_append_left _ listed)
    refine refusedCounts fit' (fun t listed => read t ?_) ?_ (read moment ?_) refuses
    · exact List.mem_append_right _ (List.mem_cons_of_mem _ listed)
    · rw [same]
      exact (List.pairwise_append.mp within).2.1
    · exact List.mem_append_right _ List.mem_cons_self
  · have kept := @decisionsKept τ _ known _ _ (·.concerns key) (· = key) (fun u dropped k same => ?_) run
      ⟨rfl,rfl⟩ fit fit read within fun _ _ _ _ _ => rfl
    · exact kept.trans (decisionsConcerned _ key run)
    · rw [of_decide_eq_true same]
      exact dropped
  · have kept := @decisionsKept τ _ known _ _ (fun u => decide (u ≠ .cleanup)) (fun _ => true) (fun u dropped k _ => ?_)
      run ⟨rfl,rfl⟩ fit fit read within fun _ _ _ _ _ => rfl
    · rw [filterAll,filterAll] at kept
      exact kept.symm
    · cases u <;> simp_all [Use.concerns]

def rush : List (Number × Use) := [(.whole 0,.check "a"),(.whole 3,.check "a"),(.whole 4,.check "a"),
  (.whole 4,.check "b"),(.whole 5,.cleanup),(.whole 10,.check "a"),(.whole 11,.check "a"),
  (.whole 12,.resetKey "a"),(.whole 12,.check "a")]

theorem rushExact : Quantity.Steady (.whole 10) (rush.map Prod.fst ++ [.whole 13]) ∧
    Exact 2 (.whole 10) rush (.whole 13) := by
  have steady : Quantity.Steady (.whole 10) (rush.map Prod.fst ++ [.whole 13]) :=
    @Number.wholeSteady [0,3,4,4,5,10,11,12,12,13] (by decide) 10
  exact ⟨steady,slidesExactly 2 steady⟩

example : (create 2 (.whole 10)).decisions rush =
    [("a",true),("a",true),("a",false),("b",true),("a",true),("a",false),("a",true)] := by decide

end Limiter

end ReadThrough
