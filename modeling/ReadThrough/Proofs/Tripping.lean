import ReadThrough.Proofs.Cues
import ReadThrough.Proofs.Shut

/-! Closed circuits. A closed circuit opens by itself exactly at a failure that fills its window. The failures
that count are told from the history: shown since the last success or reset, and not yet behind the window. The
breaker drops them whenever it comes upon them, and forgets them when it opens; neither is ever noticed. -/
namespace ReadThrough
open Relation
variable {τ : Type} [Quantity τ]

namespace Sighting

def clears (x : Sighting τ) : Bool := x.cue = .shown .answered ∨ x.cue = .reset

def uncleared (seen : List (Sighting τ)) : List (Sighting τ) :=
  (since clears seen).filter fun x => x.cue = .shown .failed

def strikes (window now : τ) (seen : List (Sighting τ)) : Nat :=
  (uncleared seen).countP fun x => decide (now - window < x.now)

omit [Quantity τ] in
theorem unclearedSnoc (seen : List (Sighting τ)) (x : Sighting τ) : uncleared (seen ++ [x]) =
    if x.clears then [] else if x.cue = .shown .failed then uncleared seen ++ [x] else uncleared seen := by
  unfold uncleared
  rw [sinceSnoc]
  by_cases clears : x.clears
  · simp [clears]
  · by_cases failed : x.cue = .shown .failed <;> simp [clears,failed]

end Sighting

namespace Breaker
open Sighting
variable {b b' : Breaker τ} {now later : τ} {quiet : Prop} {c : Cue} {seen : List (Sighting τ)}

theorem Idle.counts (idle : b.Idle now b') (onward : Quantity.Onward b.rule.window now later) :
    (b'.prune later).failures = (b.prune later).failures := by
  cases idle with
  | looked =>
    rcases b.lookState now with same | ⟨-,turned⟩
    · rw [same]
    · rw [turned]
      rfl
  | entered =>
    rcases b.enterState now with ⟨-,-,same⟩ | ⟨-,-,-,raised⟩ | ⟨-,-,-,same⟩
    · rw [same]
    · rw [raised]
      rfl
    · rw [same]
  | pruned => rw [pruneOnward onward]

theorem idleCounts (chain : ReflTransGen (Idle now) b b') (onward : Quantity.Onward b.rule.window now later) :
    (b'.prune later).failures = (b.prune later).failures := by
  induction chain with
  | refl => rfl
  | tail before idle ih => exact (idle.counts ((idleRests before).rule ▸ onward)).trans ih

structure Counts (seen : List (Sighting τ)) (b : Breaker τ) : Prop where
  closed : b.phase = .closed → ∀ x ∈ uncleared seen, x.phase = .closed
  remembered : b.phase = .closed → ∀ later, (∀ x ∈ seen, Quantity.Onward b.rule.window x.now later) →
    (b.prune later).failures = ((uncleared seen).map (·.now)).filter fun t => decide (later - b.rule.window < t)

theorem Counts.elsewhere (seen : List (Sighting τ)) (elsewhere : b.phase ≠ .closed) : b.Counts seen :=
  ⟨fun closed => absurd closed elsewhere,fun closed => absurd closed elsewhere⟩

theorem Counts.opened (seen : List (Sighting τ)) (opened : b.phase = .opened) : b.Counts seen :=
  .elsewhere seen (opened ▸ nofun)

theorem Counts.cleared (seen : List (Sighting τ)) {x : Sighting τ} (clears : x.clears = true)
    (empty : b.failures = []) : b.Counts (seen ++ [x]) := by
  have none : uncleared (seen ++ [x]) = [] := by rw [unclearedSnoc,if_pos clears]
  refine ⟨fun _ => by simp [none],fun _ later _ => ?_⟩
  rw [none,prune,empty]
  rfl

theorem Counts.spared {x : Sighting τ} (counts : b.Counts seen) (spares : x.clears = false ∧ x.cue ≠ .shown .failed)
    (rule : b'.rule = b.rule) (closed : b'.phase = .closed → b.phase = .closed)
    (kept : ∀ later, Quantity.Onward b.rule.window x.now later → (b'.prune later).failures = (b.prune later).failures) :
    b'.Counts (seen ++ [x]) := by
  have same : uncleared (seen ++ [x]) = uncleared seen := by
    rw [unclearedSnoc,if_neg (by simp [spares.1]),if_neg spares.2]
  refine ⟨fun closed' => same ▸ counts.closed (closed closed'),fun closed' later after => ?_⟩
  rw [rule] at after ⊢
  rw [same,kept later (after x List.mem_concat_self)]
  exact counts.remembered (closed closed') later fun y mem => after y (List.mem_append_left _ mem)

theorem Counts.failed (counts : b.Counts seen) (closed : b.phase = .closed) :
    ({ b with probing := false, failures := b.filled now } : Breaker τ).Counts
      (seen ++ [⟨now,.shown .failed,b.phase⟩]) := by
  have one : uncleared (seen ++ [⟨now,.shown .failed,b.phase⟩]) =
      uncleared seen ++ [⟨now,.shown .failed,b.phase⟩] := by simp [unclearedSnoc,clears]
  refine ⟨fun _ x mem => ?_,fun _ later after => ?_⟩
  · rw [one] at mem
    rcases List.mem_append.mp mem with old | new
    · exact counts.closed closed x old
    · cases List.mem_singleton.mp new
      exact closed
  · have onward : Quantity.Onward b.rule.window now later := after _ List.mem_concat_self
    have pruned := congrArg (·.failures)
      (pruneOnward (b := { b with failures := b.failures ++ [now] }) onward)
    have old := counts.remembered closed later fun x mem => after x (List.mem_append_left _ mem)
    rw [one,List.map_append,List.filter_append,← old]
    refine pruned.trans ?_
    simp only [prune,List.filter_append]
    rfl

theorem Heeds.counts (heeds : b.Heeds now quiet c b') (calm : quiet) (counts : b.Counts seen) :
    b'.Counts (seen ++ [⟨now,c,b.phase⟩]) := by
  cases heeds with
  | idle chain =>
    have rests := idleRests chain
    refine counts.spared ⟨rfl,nofun⟩ rests.rule (fun closed => ?_) fun later onward => idleCounts chain onward
    rcases rests.phase with same | ⟨-,half⟩
    · exact same ▸ closed
    · cases half.symm.trans closed
  | shown s =>
    cases s with
    | answered => exact .cleared seen rfl rfl
    | failed =>
      rcases b.failState now with ⟨longer,-,-,opens⟩ | ⟨-,-,opens⟩ | ⟨-,-,stays⟩
      · refine .opened _ ?_
        rw [heed,opens]
      · refine .opened _ ?_
        rw [heed,opens]
      · rw [heed,stays]
        by_cases closed : b.phase = .closed
        · exact counts.failed closed
        · exact .elsewhere _ closed
    | nothing => exact counts.spared ⟨rfl,fun failed => by cases failed⟩ rfl id fun later _ => rfl
  | unforgiven loud => exact absurd calm loud
  | forced =>
    refine .opened _ ?_
    rw [forceOpen,tripState]
  | reset =>
    refine .cleared seen rfl ?_
    rw [Breaker.reset,moveToState]

theorem becomesCounts {rule : BreakerRule τ} (becomes : (create rule).Becomes quiet seen b) (calm : quiet) :
    b.Counts seen := by
  induction becomes with
  | start => exact ⟨nofun,fun _ _ _ => rfl⟩
  | step before heeds ih => exact heeds.counts calm ih

theorem Counts.strikes (counts : b.Counts seen) (closed : b.phase = .closed)
    (onward : ∀ x ∈ seen, Quantity.Onward b.rule.window x.now now) :
    (b.prune now).failures.length = Sighting.strikes b.rule.window now seen := by
  rw [counts.remembered closed now onward,← List.countP_eq_length_filter,List.countP_map]
  rfl

theorem Counts.filled (counts : b.Counts seen) (closed : b.phase = .closed)
    (onward : ∀ x ∈ seen, Quantity.Onward b.rule.window x.now now) :
    (b.filled now).length = Sighting.strikes b.rule.window now (seen ++ [⟨now,.shown .failed,b.phase⟩]) := by
  have old := counts.strikes closed onward
  rw [prune] at old
  rw [Breaker.filled,List.filter_append,List.length_append,old]
  simp [Sighting.strikes,unclearedSnoc,clears,List.countP_append,← List.countP_eq_length_filter]

theorem Turns.opens (turns : b.Turns now c b') (closed : b.phase = .closed) (unforced : c ≠ .forced) :
    b'.phase = .opened ↔ c = .shown .failed ∧ b.rule.threshold ≤ (b.filled now).length := by
  cases turns with
  | rests rests unhanded undecided few =>
    refine ⟨fun opened => ?_,fun full => absurd full.2 (few closed full.1)⟩
    rcases rests.phase with same | ⟨opened',-⟩
    · cases closed.symm.trans (same.symm.trans opened)
    · cases closed.symm.trans opened'
  | closes half => cases closed.symm.trans half
  | trips _ full rule opens => exact ⟨fun _ => ⟨rfl,full⟩,fun _ => opens.phase⟩
  | reopens half => cases closed.symm.trans half
  | forced => exact absurd rfl unforced
  | reset rule phase => exact ⟨fun opened => (by cases phase.symm.trans opened),nofun⟩

end Breaker

theorem Quantity.exactOnward {a b : Rat} (le : a ≤ b) (window : Rat) : Quantity.Onward window a b :=
  ⟨fun _ reached => reached.trans le,fun _ inside => (sub_le_sub_right le window).trans_lt inside⟩

namespace Rehearsal.Exchange
open Sighting

omit [Quantity τ] in
theorem upshotUnforced (u : Line.Upshot τ) (refused : Bool) : u.cue refused ≠ .forced := by
  cases u with
  | brought v | ended error => nofun
  | again error delay => cases refused <;> nofun

theorem controlUnforced {c : Control} (unforced : c ≠ .forceOpen c.endpoint) : c.cue ≠ .forced := by
  cases c with
  | forceOpen endpoint => exact absurd rfl unforced
  | read | success | failure | reset => nofun

theorem uncued {e : Exchange τ} {endpoint : String} {a : Act} (unforced : a ≠ .control (.forceOpen endpoint)) :
    e.cue endpoint a ≠ .forced := by
  cases a with
  | call | execute => exact Cue.noneUnhanded.1
  | finish n a =>
    unfold cue
    dsimp only
    split
    · exact Cue.noneUnhanded.1
    · split
      · split
        · exact (Cue.shownUnhanded _).1
        · exact upshotUnforced _ _
      · exact Cue.noneUnhanded.1
  | control c =>
    unfold cue
    dsimp only
    split
    · rename_i here
      subst here
      exact controlUnforced fun forces => unforced (congrArg Act.control forces)
    · exact Cue.noneUnhanded.1

/-- In every run, at any moment that no earlier one is ahead of, a closed circuit counts the failures shown since
the last success or reset that lie inside the window; all of them were shown to it while it was closed; and
unless it is forced, it opens exactly at a failure with which they reach the threshold. A listener's sink
must take events: one that refuses them breaks off the report of an outcome halfway. -/
theorem tripsWhenFull (rule : BreakerRule τ) (meter : Option (Meter τ))
    (willing : ∀ m, meter = some m → m.sink ≠ .refusing) (service : Service τ) {run : List (τ × Act)} {now : τ}
    (onward : ∀ m ∈ run, Quantity.Onward rule.window m.1 now) {endpoint : String} :
    let e := (create ⟨.create rule,meter⟩ service).after run
    let seen := (create ⟨.create rule,meter⟩ service).history endpoint run
    (e.breaker endpoint).phase = .closed →
      (Line.failureCount now endpoint e.line).1 = .ok (strikes rule.window now seen) ∧
      (∀ x ∈ uncleared seen, x.phase = .closed) ∧
      ∀ a, a ≠ .control (.forceOpen endpoint) → (((e.act now a).2.breaker endpoint).phase = .opened ↔
        e.cue endpoint a = .shown .failed ∧
          rule.threshold ≤ strikes rule.window now (seen ++ [e.sighting endpoint now a])) := by
  intro e seen closed
  have fit : e.Fit := afterFit (createFit rule meter service) run
  have becomes : (Breaker.create rule).Becomes _ seen (e.breaker endpoint) :=
    afterBecomes (createFit rule meter service) endpoint run
  have counts := Breaker.becomesCounts becomes willing
  have ruled : (e.breaker endpoint).rule = rule := Breaker.becomesRule becomes
  have onward' : ∀ x ∈ seen, Quantity.Onward (e.breaker endpoint).rule.window x.now now := by
    intro x mem
    have moment : x.now ∈ run.map (·.1) := historyMoments endpoint _ run ▸ List.mem_map_of_mem mem
    obtain ⟨m,member,same⟩ := List.mem_map.mp moment
    rw [ruled,← same]
    exact onward m member
  refine ⟨?_,counts.closed closed,fun a unforced => ?_⟩
  · have counted :
        (Line.failureCount now endpoint e.line).1 = .ok ((e.breaker endpoint).prune now).failures.length := rfl
    rw [counted,counts.strikes closed onward',ruled]
  · have quiet : e.line.Quiet := (afterSteady (createFit rule meter service) run).2.2 willing
    have opens := (actHeeds fit now a endpoint).turns.opens closed (uncued unforced)
    rw [counts.filled closed onward',ruled] at opens
    refine opens.trans ⟨?_,?_⟩
    · rintro ⟨failed,full⟩
      refine ⟨failed,?_⟩
      rw [sighting,failed]
      exact full
    · rintro ⟨failed,full⟩
      refine ⟨failed,?_⟩
      rw [sighting,failed] at full
      exact full

def twiceRule : BreakerRule Rat := ⟨2,60,10,40⟩

def mendedRun : List (Rat × Act) := [
  (0,.call "late" "slow" "rpc"),(0,.control (.failure "rpc")),(1,.control (.failure "rpc")),
  (2,.finish 0 .timedOut),(11,.call "probe" "fine" "rpc"),(12,.finish 1 (.returned .null)),
  (13,.control (.failure "rpc"))]

theorem mendedTrips :
    let e := (create ⟨.create twiceRule,none⟩ exactService).after mendedRun
    (e.breaker "rpc").phase = .closed ∧ (Line.failureCount 70 "rpc" e.line).1 = .ok 1 ∧
      ((e.act 70 (.control (.failure "rpc"))).2.breaker "rpc").phase = .opened := by
  have closed : (((create ⟨.create twiceRule,none⟩ exactService).after mendedRun).breaker "rpc").phase = .closed := by
    decide +kernel
  have onward : ∀ m ∈ mendedRun, Quantity.Onward twiceRule.window m.1 70 := by
    have order : ∀ m ∈ mendedRun, m.1 ≤ (70 : Rat) := by decide +kernel
    exact fun m member => Quantity.exactOnward (order m member) _
  have willing : ∀ m, (none : Option (Meter Rat)) = some m → m.sink ≠ .refusing := fun _ attached => nomatch attached
  obtain ⟨counted,-,trips⟩ := tripsWhenFull twiceRule none willing exactService onward closed
  have counts : Sighting.strikes twiceRule.window 70
      ((create ⟨.create twiceRule,none⟩ exactService).history "rpc" mendedRun) = 1 := by decide +kernel
  refine ⟨closed,counts ▸ counted,(trips (.control (.failure "rpc")) nofun).mpr ?_⟩
  decide +kernel

end Rehearsal.Exchange
end ReadThrough
