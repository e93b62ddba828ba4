import ReadThrough.Proofs.Cooldown
import ReadThrough.Proofs.Doubling
import ReadThrough.Proofs.Lasting

/-! Recovery that backs off. Each time a circuit relapses it stays open no shorter than before, and never beyond
the ceiling of its cooldown. Validation asks of base and ceiling only that each be positive; all of this holds
exactly of those settings whose base is not above their ceiling. -/
namespace ReadThrough

/-! The limits of a circuit in settings that are accepted. -/

namespace Settings

def Spans (r : BreakerRules Number) : Prop := Quantity.zero < r.baseCooldown ∧ Quantity.zero < r.maxCooldown

instance (r : BreakerRules Number) : Decidable (Spans r) := inferInstanceAs (Decidable (_ ∧ _))

theorem amountReads {σ : Type} {said : Option Value} {path : List String} {get : σ → Number} {below r : σ}
    (reads : Leaf.Reads ⟨path,Coercion.amount [.positive],get⟩ said below r) (usually : Quantity.zero < get below) :
    Quantity.zero < get r :=
  of_decide_eq_true (Leaf.boundReads reads (decide_eq_true usually))

theorem checkedSpans {v : Value} {r : BreakerRules Number} (valid : BreakerRules.check v = .valid r) : Spans r := by
  have reads := (Branch.breaker.reads v r).mp valid
  exact ⟨amountReads (reads ⟨["base_cooldown"],Coercion.amount [.positive],(·.baseCooldown)⟩
      (.tail _ (.tail _ (.head _)))) (by decide),
    amountReads (reads ⟨["max_cooldown"],Coercion.amount [.positive],(·.maxCooldown)⟩
      (.tail _ (.tail _ (.tail _ (.head _))))) (by decide)⟩

theorem profileSpans (e : Environment) : ∀ r ∈ (profile e : Profile Number).breaker, Spans r := by
  cases e <;> decide

theorem Accepted.spans {s : Settings Number} (accepted : s.Accepted) : Spans s.breaker := by
  have top : (Branch.breaker.stem : Leaf (Settings Number)) ∈ tops := by simp [tops,Branch.all]
  refine accepted.always top (P := Spans) (fun v r valid => ?_) (by decide : Spans .usual) ?_
  · cases v with
    | dict entries => exact checkedSpans valid
    | _ => cases valid
  · intro s e supplied spans
    change Spans (if supplied.contains "breaker" then s.breaker else (profile e).breaker.getD s.breaker)
    split
    · exact spans
    · cases set : (profile e : Profile Number).breaker with
      | none => exact spans
      | some r => exact profileSpans e r set

end Settings

namespace Breaker
variable {b b' : Breaker Number} {now : Number} {c : Cue}

structure Capped (b : Breaker Number) : Prop where
  positive : Quantity.zero < b.cooldown
  capped : ¬ b.rule.maxCooldown < b.cooldown

theorem Capped.doubles (capped : b.Capped) (cap : Quantity.zero < b.rule.maxCooldown) :
    let longer := Quantity.least (Quantity.double b.cooldown) b.rule.maxCooldown
    Quantity.zero < longer ∧ ¬ b.rule.maxCooldown < longer ∧ ¬ longer < b.cooldown := by
  obtain ⟨positive,grown⟩ := Number.doubles capped.positive
  unfold Quantity.least
  split
  · exact ⟨cap,Number.belowNone _,capped.capped⟩
  · rename_i below
    exact ⟨positive,below,grown⟩

theorem Turns.capped (turns : b.Turns now c b') (base : Quantity.zero < b.rule.baseCooldown)
    (cap : Quantity.zero < b.rule.maxCooldown) (ordered : ¬ b.rule.maxCooldown < b.rule.baseCooldown)
    (capped : b.Capped) : b'.Capped := by
  obtain ⟨positive,below,-⟩ := capped.doubles cap
  have told := turns.cooldown
  suffices Quantity.zero < b'.cooldown ∧ ¬ b.rule.maxCooldown < b'.cooldown from
    ⟨this.1,turns.rule ▸ this.2⟩
  rw [told]
  split
  · exact ⟨base,ordered⟩
  · split
    · exact ⟨positive,below⟩
    · exact ⟨capped.positive,capped.capped⟩

theorem Turns.spans (turns : b.Turns now c b') (cap : Quantity.zero < b.rule.maxCooldown) (capped : b.Capped) :
    let restarts := Sighting.restarts ⟨now,c,b.phase⟩
    let opens := b'.phase = .opened ∧ (b.phase ≠ .opened ∨ c = .forced)
    restarts = true ∨ restarts = false ∧ opens ∧ ¬ b'.cooldown < b.cooldown ∨
      restarts = false ∧ ¬ opens ∧ b'.cooldown = b.cooldown := by
  intro restarts opens
  by_cases again : restarts
  · exact .inl again
  · have unended : restarts = false := Bool.eq_false_iff.mpr again
    refine .inr ?_
    cases turns with
    | rests rests unhanded =>
      refine .inr ⟨unended,?_,rests.cooldown⟩
      rintro ⟨opened,unopened | forced⟩
      · rcases rests.phase with same | ⟨-,half⟩
        · exact unopened (same ▸ opened)
        · cases half.symm.trans opened
      · exact unhanded.1 forced
    | closes half => exact absurd (by simp [restarts,Sighting.restarts,half]) again
    | trips closed full rule opens =>
      refine .inl ⟨unended,⟨opens.phase,.inl fun open' => by cases closed.symm.trans open'⟩,?_⟩
      rw [opens.cooldown]
      exact Number.belowNone _
    | reopens half rule opens =>
      refine .inl ⟨unended,⟨opens.phase,.inl fun open' => by cases half.symm.trans open'⟩,?_⟩
      rw [opens.cooldown]
      exact (capped.doubles cap).2.2
    | forced rule opens =>
      refine .inl ⟨unended,⟨opens.phase,.inr rfl⟩,?_⟩
      rw [opens.cooldown]
      exact Number.belowNone _
    | reset => exact absurd rfl again

end Breaker

namespace Rehearsal.Exchange

section
variable {τ : Type} [Quantity τ]

def period? (e : Exchange τ) (endpoint : String) (now : τ) (a : Act) : Option τ :=
  let b := (e.act now a).2.breaker endpoint
  if b.phase = .opened ∧ ((e.breaker endpoint).phase ≠ .opened ∨ e.cue endpoint a = .forced) then some b.cooldown
  else none

def lengthen (e : Exchange τ) (endpoint : String) (past : List τ) (now : τ) (a : Act) : List τ :=
  if (e.sighting endpoint now a).restarts then [] else past ++ (e.period? endpoint now a).toList

def periods (endpoint : String) (e : Exchange τ) (past : List τ) : List (τ × Act) → List τ
  | [] => past
  | m :: rest => (e.act m.1 m.2).2.periods endpoint (e.lengthen endpoint past m.1 m.2) rest

/-- After a run the cooldown is not above the ceiling, and no failure, in a half-open circuit or elsewhere, will
shorten it; whatever opens the circuit opens it for that time, and no such period is shorter than the one before it. -/
structure BacksOff (cap : τ) (endpoint : String) (e : Exchange τ) (run : List (τ × Act)) : Prop where
  capped : ¬ cap < ((e.after run).breaker endpoint).cooldown
  relapses : ∀ now a, (e.after run).cue endpoint a = .shown .failed →
    ¬ (((e.after run).act now a).2.breaker endpoint).cooldown < ((e.after run).breaker endpoint).cooldown
  lasts : ∀ now a p, (e.after run).period? endpoint now a = some p →
    (((e.after run).act now a).2.breaker endpoint).openUntil = now + p
  successive : (e.periods endpoint [] run).IsChain fun p q => ¬ q < p

theorem period?Lasts {e : Exchange τ} {endpoint : String} {now p : τ} {a : Act} (fit : e.Fit)
    (opens : e.period? endpoint now a = some p) : ((e.act now a).2.breaker endpoint).openUntil = now + p := by
  unfold period? at opens
  dsimp only at opens
  split at opens
  · rename_i opened
    cases opens
    exact (actHeeds fit now a endpoint).turns.lasts opened.1 opened.2
  · cases opens

end

variable {e : Exchange Number} {now : Number} {a : Act} {endpoint : String} {past : List Number}

structure Successive (cooldown : Number) (past : List Number) : Prop where
  chain : past.IsChain fun p q => ¬ q < p
  last : ∀ p ∈ past.getLast?, p = cooldown

theorem Successive.longer {cooldown next : Number} (successive : Successive cooldown past)
    (longer : ¬ next < cooldown) : Successive next (past ++ [next]) := by
  refine ⟨List.isChain_append.mpr ⟨successive.chain,.singleton _,fun p mem q head => ?_⟩,fun p mem => ?_⟩
  · rw [List.head?_cons,Option.mem_some_iff] at head
    rw [successive.last p mem,← head]
    exact longer
  · rw [List.getLast?_append] at mem
    simpa using mem.symm

theorem lengthenSuccessive (fit : e.Fit) (cap : Quantity.zero < (e.breaker endpoint).rule.maxCooldown)
    (capped : (e.breaker endpoint).Capped) (successive : Successive (e.breaker endpoint).cooldown past) :
    Successive ((e.act now a).2.breaker endpoint).cooldown (e.lengthen endpoint past now a) := by
  unfold lengthen period? sighting
  dsimp only
  rcases (actHeeds fit now a endpoint).turns.spans cap capped with
    restarts | ⟨goesOn,opens,longer⟩ | ⟨goesOn,rests,same⟩
  · rw [if_pos restarts]
    exact ⟨.nil,nofun⟩
  · rw [if_neg (goesOn ▸ Bool.false_ne_true),if_pos opens]
    exact successive.longer longer
  · rw [if_neg (goesOn ▸ Bool.false_ne_true),if_neg rests,same]
    simpa using successive

theorem periodsSuccessive {rule : BreakerRule Number} (base : Quantity.zero < rule.baseCooldown)
    (cap : Quantity.zero < rule.maxCooldown) (ordered : ¬ rule.maxCooldown < rule.baseCooldown) (fit : e.Fit)
    (endpoint : String) (ruled : (e.breaker endpoint).rule = rule) (capped : (e.breaker endpoint).Capped)
    (successive : Successive (e.breaker endpoint).cooldown past) (run : List (Number × Act)) :
    ((e.after run).breaker endpoint).Capped ∧
      Successive ((e.after run).breaker endpoint).cooldown (e.periods endpoint past run) := by
  induction run generalizing e past with
  | nil => exact ⟨capped,successive⟩
  | cons m rest ih =>
    subst ruled
    have turns := (actHeeds fit m.1 m.2 endpoint).turns
    exact ih ((actGoes fit m.1 m.2).fit fit) turns.rule (turns.capped base cap ordered capped)
      (lengthenSuccessive fit cap capped successive)

theorem backsOff (rule : BreakerRule Number) (base : Quantity.zero < rule.baseCooldown)
    (cap : Quantity.zero < rule.maxCooldown) (ordered : ¬ rule.maxCooldown < rule.baseCooldown)
    (meter : Option (Meter Number)) (service : Service Number) (endpoint : String) (run : List (Number × Act)) :
    BacksOff rule.maxCooldown endpoint (create ⟨.create rule,meter⟩ service) run := by
  have fit := createFit rule meter service
  obtain ⟨capped,successive⟩ := periodsSuccessive base cap ordered fit endpoint rfl ⟨base,ordered⟩ ⟨.nil,nofun⟩ run
  have ruled : (((create ⟨.create rule,meter⟩ service).after run).breaker endpoint).rule = rule :=
    Breaker.becomesRule (afterBecomes fit endpoint run)
  have cap' := cap
  have below := capped.capped
  rw [← ruled] at cap'
  rw [ruled] at below
  refine ⟨below,fun now a failed => ?_,fun now a p opens => ?_,successive.chain⟩
  · rcases (actHeeds (afterFit fit run) now a endpoint).turns.spans cap' capped with
      restarts | ⟨-,-,longer⟩ | ⟨-,-,same⟩
    · simp [Sighting.restarts,failed] at restarts
    · exact longer
    · exact same ▸ Number.belowNone _
  · exact period?Lasts (afterFit fit run) opens

end Rehearsal.Exchange

namespace Settings
open Rehearsal Rehearsal.Exchange

/-- The circuits of a coordinator built from settings that validation accepts back off in every run exactly if the
base of their cooldown is not above its ceiling. -/
theorem backsOffIff {s : Settings Number} (accepted : s.Accepted) {sink : Sink Number} {c : Coordinator Number}
    (built : s.coordinator sink = .ok c) :
    (∀ endpoint run, BacksOff s.breaker.maxCooldown endpoint
      (Exchange.create ⟨c.board,some c.store.meter⟩ c.service) run) ↔
        ¬ s.breaker.maxCooldown < s.breaker.baseCooldown := by
  obtain ⟨store,-,last⟩ := exceptBindIff.mp built
  cases last
  obtain ⟨base,cap⟩ := accepted.spans
  constructor
  · intro backs
    exact (backs "" []).capped
  · intro ordered endpoint run
    exact backsOff s.breaker.rule base cap ordered _ _ endpoint run

theorem profileBacksOff : ∃ screens, grouplessTest.Accepted ∧
    grouplessTest.coordinator .journal = .ok (grouplessCache screens) ∧
    ∀ endpoint run, BacksOff grouplessTest.breaker.maxCooldown endpoint
      (Exchange.create ⟨(grouplessCache screens).board,some (grouplessCache screens).store.meter⟩
        (grouplessCache screens).service) run := by
  obtain ⟨screens,built⟩ := grouplessBuilt
  have accepted : grouplessTest.Accepted := environmentAccepted grouplessRead
  exact ⟨screens,accepted,built,(backsOffIff accepted built).mpr (by decide +kernel)⟩

def steep : List (Value × Value) :=
  [(.str "breaker",.dict [(.str "failure_threshold",.int 1),(.str "base_cooldown",.int 100),
    (.str "max_cooldown",.int 10)])]

def steepTest : Settings Number :=
  { layer .test with
    environment := .test
    breaker := ⟨1,Quantity.ratio 60 1,.real (Decimal.ofWhole 100),.real (Decimal.ofWhole 10),
      some (Quantity.ratio 30 1)⟩ }

theorem steepRead : forEnvironment (some (.str "test")) [] steep = .ok steepTest := rfl

def steepMeter : Meter Number := .create 50 (Quantity.ratio 60 1) steepTest.health .journal

def steepCircuits : Exchange Number :=
  Exchange.create ⟨.create steepTest.breaker.rule,some steepMeter⟩ steepTest.service

theorem steepBuilt : ∃ c, steepTest.coordinator .journal = .ok c ∧
    Exchange.create ⟨c.board,some c.store.meter⟩ c.service = steepCircuits := by
  obtain ⟨screens,gate⟩ := usualGate
  refine ⟨Coordinator.create
    ⟨50,steepTest.ttlFor,⟨screens,256,1024 * 1024⟩,steepTest.security.limiter,steepMeter,.empty,.empty⟩
    steepTest.breaker.rule steepTest.service true false,?_,rfl⟩
  rw [coordinator,store,show steepTest.security.gate = _ from gate]
  rfl

def relapse : List (Number × Act) := [
  (.whole 1000,.control (.failure "default")),(.whole 1100,.control (.read "default" .phase)),
  (.whole 1100,.control (.failure "default"))]

/-- Validation takes the settings. The cooldown starts above its ceiling, and the first failure of a half-open
circuit cuts it: the second time the circuit is open for less long. -/
theorem steepShortens : ∃ (s : Settings Number) (c : Coordinator Number),
    forEnvironment (some (.str "test")) [] steep = .ok s ∧ s.coordinator .journal = .ok c ∧
      let e := Exchange.create ⟨c.board,some c.store.meter⟩ c.service
      let d := e.after (relapse.take 2)
      s.breaker.maxCooldown < (e.breaker "default").cooldown ∧
      d.cue "default" (.control (.failure "default")) = .shown .failed ∧
      (d.breaker "default").phase = .halfOpen ∧
      ((e.after relapse).breaker "default").cooldown < (d.breaker "default").cooldown ∧
      ∃ p q, e.periods "default" [] relapse = [p,q] ∧ q < p := by
  obtain ⟨c,built,made⟩ := steepBuilt
  refine ⟨steepTest,c,steepRead,built,?_⟩
  rw [made]
  exact ⟨by decide +kernel,rfl,rfl,by decide +kernel,_,_,rfl,by decide +kernel⟩

end Settings
end ReadThrough
