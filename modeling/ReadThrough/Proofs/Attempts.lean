import ReadThrough.Proofs.Surface

/-! Retries from their first attempt to their last. The first outcome that is no error worth another attempt ends
them, or there is no retry left; after each attempt before that one its delay is reported and slept. -/
namespace ReadThrough
variable {τ : Type} [Quantity τ]

def Backoff.wait (p : Backoff τ) (draw : τ → τ → τ) (attempt : Nat) (error : Fault) : Except Failure τ :=
  match (error.hint : Except Failure (Option τ)) with
  | .error why => .error why
  | .ok hint => (p.delay attempt hint draw).mapError .arithmetic

theorem Backoff.againIff {p : Backoff τ} {limit : Option τ} {draw : τ → τ → τ} {attempt : Nat} {raw error : Fault}
    {delay : τ} : p.decide limit draw attempt raw = .ok (.again error delay) ↔
      classify limit raw = .ok error ∧ error.isRetryable ∧ (attempt : Int) < p.retries ∧
        p.wait draw attempt error = .ok delay := by
  constructor
  · intro decided
    unfold decide at decided
    split at decided
    · cases decided
    · rename_i judged classified
      split at decided
      · cases decided
      · rename_i goes
        obtain ⟨retryable,more⟩ : judged.isRetryable = true ∧ ¬ p.retries ≤ attempt := by simpa using goes
        split at decided
        · cases decided
        · rename_i hint reads
          split at decided
          · cases decided
          · rename_i d waits
            cases decided
            refine ⟨classified,retryable,Int.not_le.mp more,?_⟩
            simp only [wait,reads,waits]
            rfl
  · rintro ⟨classified,retryable,more,waits⟩
    have goes : ¬ (!error.isRetryable || Decidable.decide (p.retries ≤ attempt)) = true := by simp [retryable,more]
    unfold wait at waits
    split at waits
    · cases waits
    · rename_i hint reads
      cases found : p.delay attempt hint draw with
      | error why => rw [found] at waits; cases waits
      | ok d =>
        rw [found] at waits
        cases waits
        simp only [decide,classified,if_neg goes,reads,found]

namespace Attempt

def settles (limit : Option τ) (a : Attempt) : Bool :=
  match a.error? with
  | none => true
  | some raw => match Backoff.classify limit raw with
    | .ok error => !error.isRetryable
    | .error _ => false

def result (error : Fault) : Attempt → Except Fault Value
  | .returned v => .ok v
  | .cancelled => .error (.of .cancelled)
  | .timedOut => .error error
  | .raised _ => .error error

theorem settlesIff {limit : Option τ} {a : Attempt} {raw error : Fault} (came : a.error? = some raw)
    (classified : Backoff.classify limit raw = .ok error) : a.settles limit = !error.isRetryable := by
  simp only [settles,came,classified]

end Attempt

namespace Service
variable (service : Service τ) (ends : Nat → Attempt)

/-- The attempt that retries end with: the first that settles them, or the one after the last retry. -/
def last : Nat :=
  let most := service.backoff.retries.toNat
  ((List.range most).find? fun i => (ends i).settles service.limit).getD most

structure Lasts (n : Nat) : Prop where
  before : ∀ i < n, (ends i).settles service.limit = false
  within : n ≤ service.backoff.retries.toNat
  settled : (ends n).settles service.limit = true ∨ n = service.backoff.retries.toNat

theorem lasts : service.Lasts ends (service.last ends) := by
  unfold last
  dsimp only
  cases found : (List.range service.backoff.retries.toNat).find? fun i => (ends i).settles service.limit with
  | none => exact ⟨by simpa using found,Nat.le_refl _,.inr rfl⟩
  | some n =>
    obtain ⟨settles,within,before⟩ := List.find?_range_eq_some.mp found
    exact ⟨by simpa using before,Nat.le_of_lt (List.mem_range.mp within),.inl settles⟩

end Service

namespace Fault

structure Becomes (raw error : Fault) : Prop where
  remote : error.failure.isRemote
  typed : raw.failure.isRemote → error = raw
  caused : raw.failure.isRemote = false → error.raw = some raw
  late : raw = timeUp → ∃ text, error.failure = .remote .timeout text

theorem becomes {limit : Option τ} {raw error : Fault} (classified : Backoff.classify limit raw = .ok error) :
    raw.Becomes error := by
  refine ⟨Backoff.classifiedRemote classified,fun typed => ?_,fun untyped => ?_,?_⟩
  · cases (Backoff.classifyTyped limit typed).symm.trans classified
    rfl
  · rcases Backoff.limitClassifies limit raw with ⟨-,-,text,timeout⟩ | ⟨-,same⟩
    · cases timeout.symm.trans classified
      rfl
    · have known := classifies raw
      rw [← same,classified] at known
      cases known with
      | typed typed => cases typed.symm.trans untyped
      | throttled | other => rfl
  · rintro rfl
    rcases Backoff.limitClassifies limit timeUp with ⟨-,-,text,timeout⟩ | ⟨-,same⟩
    · cases timeout.symm.trans classified
      exact ⟨text,rfl⟩
    · cases same.symm.trans classified
      exact ⟨_,rfl⟩

end Fault

namespace Rehearsal.Retries
variable {s : Retries τ} {a : Attempt} {error : Fault} {delay : τ}

/-! One attempt. -/

section
variable (judged : ∀ raw, a.error? = some raw → Backoff.classify s.service.limit raw = .ok error)
include judged

theorem advanceEnds (ending : a.settles s.service.limit = true ∨ s.service.backoff.retries ≤ s.attempt) (now : τ)
    (task : Nat) : s.advance now task a = (.finished [("",a.result error)],s) := by
  cases came : a.error? with
  | none => cases a <;> first | rfl | cases came
  | some raw =>
    have classified := judged raw came
    rw [Attempt.settlesIff came classified] at ending
    have spent : ¬ (error.isRetryable ∧ (s.attempt : Int) < s.service.backoff.retries) := by
      rintro ⟨retryable,more⟩
      rw [retryable] at ending
      rcases ending with settles | spent
      · cases settles
      · exact Int.not_lt.mpr spent more
    have decided : s.service.backoff.decide s.service.limit s.service.draw s.attempt raw = .ok (.giveUp error) :=
      @Backoff.decideSpent τ _ s.service s.service.backoff.retries _ _ _ classified spent
    cases a with
    | returned | cancelled => cases came
    | timedOut | raised =>
      cases came
      simp only [advance,decided,Attempt.result]

theorem advanceRests (unsettled : a.settles s.service.limit = false)
    (more : (s.attempt : Int) < s.service.backoff.retries)
    (timed : s.service.backoff.wait s.service.draw s.attempt error = .ok delay) (now : τ) (task : Nat) :
    s.advance now task a = (.resting delay,{ s with attempt := s.attempt + 1,
                                                    retries := s.retries ++ [(s.attempt + 1,error,delay)] }) := by
  cases came : a.error? with
  | none => cases a <;> first | cases unsettled | cases came
  | some raw =>
    have classified := judged raw came
    rw [Attempt.settlesIff came classified,Bool.not_eq_false'] at unsettled
    have decided := Backoff.againIff.mpr ⟨classified,unsettled,more,timed⟩
    cases a with
    | returned | cancelled => cases came
    | timedOut | raised =>
      cases came
      simp only [advance,decided]

end

/-! All of them. -/

def drawing (draw : τ → τ → τ) (s : Retries τ) : Retries τ := { s with service := { s.service with draw } }

/-- Retries under way: how many attempts have ended, what has been slept, and how they stand. The attempts end as
they are given, the extra delay after each of them is drawn anew, and the moments are any. -/
inductive Shows (call : String) (service : Service τ) (ends : Nat → Attempt) (draws : Nat → τ → τ → τ) :
    Nat → List τ → Report τ × Retries τ → Prop
  | begins (now : τ) (task : Nat) : Shows call service ends draws 0 [] ((host call).begin now task ⟨service,0,[]⟩)
  | advances {made : Nat} {pauses : List τ} {supplier : String} {s : Retries τ}
      (shows : Shows call service ends draws made pauses (.attempting supplier,s)) (now : τ) (task : Nat) :
      Shows call service ends draws (made + 1) pauses
        ((host call).advance now task (ends made) (s.drawing (draws made)))
  | resumes {made : Nat} {pauses : List τ} {delay : τ} {s : Retries τ}
      (shows : Shows call service ends draws made pauses (.resting delay,s)) (task : Nat) :
      Shows call service ends draws made (pauses ++ [delay]) ((host call).resume task s)

def reported (errors : Nat → Fault) (delays : Nat → τ) (k : Nat) : List (Nat × Fault × τ) :=
  (List.range k).map fun i => (i + 1,errors i,delays i)

inductive Stands (call : String) (service : Service τ) (errors : Nat → Fault) (delays : Nat → τ) (n : Nat)
    (result : Except Fault Value) : Nat → List τ → Report τ × Retries τ → Prop
  | attempting {k : Nat} (within : k ≤ n) (draw : τ → τ → τ) :
      Stands call service errors delays n result k ((List.range k).map delays)
        (.attempting call,⟨{ service with draw },k,reported errors delays k⟩)
  | resting {k : Nat} (within : k < n) (draw : τ → τ → τ) :
      Stands call service errors delays n result (k + 1) ((List.range k).map delays)
        (.resting (delays k),⟨{ service with draw },k + 1,reported errors delays (k + 1)⟩)
  | finished (draw : τ → τ → τ) :
      Stands call service errors delays n result (n + 1) ((List.range n).map delays)
        (.finished [("",result)],⟨{ service with draw },n,reported errors delays n⟩)

section
variable {service : Service τ} {call : String} {ends : Nat → Attempt} {draws : Nat → τ → τ → τ}
  {errors : Nat → Fault} {delays : Nat → τ} {n : Nat}

omit [Quantity τ] in
theorem reportedSucc (k : Nat) :
    reported errors delays (k + 1) = reported errors delays k ++ [(k + 1,errors k,delays k)] := by
  simp [reported,List.range_succ]

variable (lasts : service.Lasts ends n)
  (judged : ∀ i ≤ n, ∀ raw, (ends i).error? = some raw → Backoff.classify service.limit raw = .ok (errors i))
  (timed : ∀ i < n, service.backoff.wait (draws i) i (errors i) = .ok (delays i))
include lasts judged timed

theorem attemptRests {k : Nat} (goes : k < n) (now : τ) (task : Nat) :
    advance now task (ends k) ⟨{ service with draw := draws k },k,reported errors delays k⟩ =
      (.resting (delays k),⟨{ service with draw := draws k },k + 1,reported errors delays (k + 1)⟩) := by
  have most := lasts.within
  rw [advanceRests (judged k (Nat.le_of_lt goes)) (lasts.before k goes) (by dsimp only; omega) (timed k goes),reportedSucc]

omit timed in
theorem attemptEnds (now : τ) (task : Nat) :
    advance now task (ends n) ⟨{ service with draw := draws n },n,reported errors delays n⟩ =
      (.finished [("",(ends n).result (errors n))],⟨{ service with draw := draws n },n,reported errors delays n⟩) := by
  refine advanceEnds (judged n (Nat.le_refl n)) ?_ now task
  rcases lasts.settled with settled | spent
  · exact .inl settled
  · exact .inr (by dsimp only; omega)

theorem showsStands {made : Nat} {pauses : List τ} {x : Report τ × Retries τ}
    (shows : Shows call service ends draws made pauses x) :
    Stands call service errors delays n ((ends n).result (errors n)) made pauses x := by
  induction shows with
  | begins now task => exact .attempting (Nat.zero_le n) service.draw
  | @advances k pauses supplier s shows now task ih =>
    cases ih with
    | attempting within draw =>
      change Stands _ _ _ _ _ _ _ _ (advance now task (ends k) ⟨{ service with draw := draws k },k,_⟩)
      rcases Nat.lt_or_eq_of_le within with goes | rfl
      · rw [attemptRests lasts judged timed goes now task]
        exact .resting goes _
      · rw [attemptEnds lasts judged now task]
        exact .finished _
  | resumes shows task ih =>
    cases ih with
    | @resting k within draw =>
      rw [← @List.map_singleton _ _ delays k,← List.map_append,← List.range_succ]
      exact .attempting within draw

variable (call) in
theorem attemptShows {k : Nat} (within : k ≤ n) (now : τ) (task : Nat) :
    ∃ draw, Shows call service ends draws k ((List.range k).map delays)
      (.attempting call,⟨{ service with draw },k,reported errors delays k⟩) := by
  induction k with
  | zero => exact ⟨_,.begins now task⟩
  | succ k ih =>
    obtain ⟨draw,shows⟩ := ih (Nat.le_of_succ_le within)
    have goes := shows.advances now task
    change Shows _ _ _ _ _ _ (advance now task (ends k) ⟨{ service with draw := draws k },k,_⟩) at goes
    rw [attemptRests lasts judged timed within now task] at goes
    have resumed := goes.resumes task
    rw [← List.map_singleton,← List.map_append,← List.range_succ] at resumed
    exact ⟨draws k,resumed⟩

theorem lastShows : ∃ s, Shows call service ends draws (n + 1) ((List.range n).map delays)
    (.finished [("",(ends n).result (errors n))],s) ∧ s.retries = reported errors delays n := by
  obtain ⟨draw,shows⟩ := attemptShows call lasts judged timed (Nat.le_refl n) Quantity.zero 0
  have ending := shows.advances Quantity.zero 0
  change Shows _ _ _ _ _ _ (advance Quantity.zero 0 (ends n) ⟨{ service with draw := draws n },n,_⟩) at ending
  rw [attemptEnds lasts judged] at ending
  exact ⟨_,ending,rfl⟩

end

/-- Retries make the attempts up to the last one and no other; they report and sleep the delay after each of them but
the last, and end with what that one comes to. -/
theorem runsToLast (call : String) (service : Service τ) (ends : Nat → Attempt) (draws : Nat → τ → τ → τ)
    (errors : Nat → Fault) (delays : Nat → τ)
    (judged : ∀ i ≤ service.last ends, ∀ raw, (ends i).error? = some raw →
      Backoff.classify service.limit raw = .ok (errors i))
    (timed : ∀ i < service.last ends, service.backoff.wait (draws i) i (errors i) = .ok (delays i)) :
    let n := service.last ends
    let result := (ends n).result (errors n)
    service.Lasts ends n ∧
      (∀ made pauses x, Shows call service ends draws made pauses x →
        Stands call service errors delays n result made pauses x) ∧
      (∃ s, Shows call service ends draws (n + 1) ((List.range n).map delays) (.finished [("",result)],s) ∧
        s.retries = reported errors delays n) ∧
      ∀ i ≤ n, ∀ raw, (ends i).error? = some raw → raw.Becomes (errors i) := by
  intro n result
  have lasts := service.lasts ends
  refine ⟨lasts,fun made pauses x shows => showsStands lasts judged timed shows,lastShows lasts judged timed,?_⟩
  intro i within raw came
  exact Fault.becomes (judged i within raw came)

def down : Fault := .of (.remote .network "down")

def late : Fault := .mk (.remote .timeout "Ledger did not respond within 30s") Traits.none (some .timeUp)

def shaky : Nat → Attempt
  | 0 => .raised down
  | 1 => .timedOut
  | _ => .returned (.int 5)

theorem shakyLast : Exchange.patient.last shaky = 2 := rfl

theorem shakyRuns :
    (∀ i ≤ Exchange.patient.last shaky, ∀ raw, (shaky i).error? = some raw →
      Backoff.classify Exchange.patient.limit raw = .ok (if i = 0 then down else late)) ∧
    (∀ i < Exchange.patient.last shaky, Exchange.patient.backoff.wait (fun low _ => low) i
      (if i = 0 then down else late) = .ok (if i = 0 then .whole 1 else .whole 2)) ∧
    ∃ s, Shows "f" Exchange.patient shaky (fun _ low _ => low) 3 [.whole 1,.whole 2]
      (.finished [("",.ok (.int 5))],s) ∧ s.retries = [(1,down,.whole 1),(2,late,.whole 2)] := by
  have judged : ∀ i ≤ Exchange.patient.last shaky, ∀ raw, (shaky i).error? = some raw →
      Backoff.classify Exchange.patient.limit raw = .ok (if i = 0 then down else late) := by
    intro i within raw came
    match i with
    | 0 => cases came; rfl
    | 1 => cases came; rfl
    | i + 2 => cases came
  have timed : ∀ i < Exchange.patient.last shaky, Exchange.patient.backoff.wait (fun low _ => low) i
      (if i = 0 then down else late) = .ok (if i = 0 then .whole 1 else .whole 2) := by
    intro i before
    match i with
    | 0 => rfl
    | 1 => rfl
    | i + 2 => rw [shakyLast] at before; omega
  exact ⟨judged,timed,(runsToLast "f" Exchange.patient shaky (fun _ low _ => low) _ _ judged timed).2.2.1⟩

end Rehearsal.Retries
end ReadThrough
