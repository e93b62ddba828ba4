import ReadThrough.Assembly
import ReadThrough.Proofs.Delivery
import ReadThrough.Proofs.Failures
import ReadThrough.Proofs.Foremost
import ReadThrough.Proofs.Positive
import ReadThrough.Proofs.Standing
import ReadThrough.Proofs.Stranded
import ReadThrough.Proofs.Writing

/-! Times to live of settings. The default of settings that validation accepts is positive, but overrides are not
checked: a write that names no time to live is refused for want of one exactly where the override that decides
about its key leaves none, and so is a fetch, after its call has brought data. -/
namespace ReadThrough
open Relation
variable {τ : Type}

/-! What fails, but not for want of a time to live. -/

theorem exceptFailsIff {ε α β : Type} {x : Except ε α} {f : α → Except ε β} {e : ε} :
    (x >>= f) = .error e ↔ x = .error e ∨ ∃ a, x = .ok a ∧ f a = .error e := by
  cases x <;> simp [bind,Except.bind]

theorem Tag.collectLasts {given : Value} : collectGiven given ≠ .error .nonPositiveTtl := by
  have single (v : Value) : ofValue v ≠ .error .nonPositiveTtl := by
    unfold ofValue
    split <;> nofun
  have items (v : Value) : items v ≠ .error .nonPositiveTtl := by
    unfold Tag.items
    split <;> nofun
  have all (vs : List Value) : ofValues vs ≠ .error .nonPositiveTtl := by
    induction vs with
    | nil => nofun
    | cons v rest ih =>
      intro failed
      rcases exceptFailsIff.mp failed with first | ⟨t,-,failed⟩
      · exact single v first
      · rcases exceptFailsIff.mp failed with others | ⟨ts,-,last⟩
        · exact ih others
        · cases last
  unfold collectGiven
  split
  · intro failed
    rcases exceptFailsIff.mp failed with listed | ⟨vs,-,failed⟩
    · exact items given listed
    · rcases exceptFailsIff.mp failed with read | ⟨ts,-,last⟩
      · exact all vs read
      · cases last
  · nofun

namespace Gate

theorem admitLasts {g : Gate} {raw : Value} : g.admitKey raw ≠ .error .nonPositiveTtl := by
  unfold admitKey Key.sanitize
  split
  · split
    · nofun
    · dsimp only
      split <;> nofun
  · nofun

theorem measureLasts {g : Gate} {v : Value} : g.measure v ≠ .error .nonPositiveTtl := by
  unfold measure
  split
  · nofun
  · split <;> nofun

theorem enforceLasts {g : Gate} {key : String} {v : Value} : g.enforce key v ≠ .error .nonPositiveTtl := by
  unfold enforce
  split <;> nofun

end Gate

namespace Settings

/-! The override that decides about a key: the first of the longest that the key starts with. -/

def Longer (a b : String × τ) : Prop := b.1.length < a.1.length

instance : DecidableRel (Longer (τ := τ)) := fun a b => inferInstanceAs (Decidable (b.1.length < a.1.length))

theorem longerGraded (overrides : List (String × τ)) : Graded Longer overrides :=
  gradedRank (fun o => OrderDual.toDual o.1.length) fun _ _ _ _ => Iff.rfl

def matching (s : Settings τ) (key : String) : List (String × τ) := s.ttlOverrides.filter (·.1.isPrefixOf key)

def Decides (s : Settings τ) (key : String) (o : String × τ) : Prop :=
  ∃ before after, s.matching key = before ++ o :: after ∧ Foremost Longer before o after

variable {s : Settings τ} {key : String}

theorem decidesOnce {o o' : String × τ} (decides : s.Decides key o) (decides' : s.Decides key o') : o = o' := by
  obtain ⟨before,after,split,foremost⟩ := decides
  obtain ⟨before',after',split',foremost'⟩ := decides'
  exact foremost.unique foremost' (split.symm.trans split')

theorem betterLonger (overrides : List (String × τ)) (best : String × τ) :
    overrides.foldl (betterOverride key) (some best) = some ((overrides.filter (·.1.isPrefixOf key)).foldl
      (fun best o => if Longer o best then o else best) best) := by
  induction overrides generalizing best with
  | nil => rfl
  | cons o rest ih =>
    rw [List.foldl_cons,List.filter_cons,betterOverride]
    split
    · rw [List.foldl_cons]
      by_cases longer : best.1.length < o.1.length
      · rw [if_pos longer,if_pos (show Longer o best from longer)]
        exact ih o
      · rw [if_neg longer,if_neg (show ¬ Longer o best from longer)]
        exact ih best
    · exact ih best

theorem betterFirst (overrides : List (String × τ)) : overrides.foldl (betterOverride key) none =
    match overrides.filter (·.1.isPrefixOf key) with
    | [] => none
    | o :: rest => some (rest.foldl (fun best o => if Longer o best then o else best) o) := by
  induction overrides with
  | nil => rfl
  | cons o rest ih =>
    rw [List.foldl_cons,List.filter_cons,betterOverride]
    split
    · exact betterLonger rest o
    · exact ih

theorem ttlDecided (s : Settings τ) (key : String) :
    (∃ o, s.Decides key o ∧ s.ttlFor key = o.2) ∨ s.matching key = [] ∧ s.ttlFor key = s.defaultTtl := by
  have decided := @betterFirst τ key s.ttlOverrides
  change _ = match s.matching key with
    | [] => none
    | o :: rest => some (rest.foldl (fun best o => if Longer o best then o else best) o) at decided
  unfold ttlFor
  cases found : s.matching key with
  | nil =>
    rw [found] at decided
    rw [decided]
    exact .inr ⟨rfl,rfl⟩
  | cons o rest =>
    rw [found] at decided
    obtain ⟨before,after,split,foremost⟩ := foldForemost (longerGraded (o :: rest))
    rw [decided]
    exact .inl ⟨_,⟨before,after,found.trans split,foremost⟩,rfl⟩

variable [Quantity τ]

def Spent (s : Settings τ) (key : String) : Prop := ∃ o, s.Decides key o ∧ o.2 ≤ Quantity.ofInt 0

theorem spentIff (lasting : ¬ s.defaultTtl ≤ Quantity.ofInt 0) : s.ttlFor key ≤ Quantity.ofInt 0 ↔ s.Spent key := by
  rcases ttlDecided s key with ⟨o,decides,same⟩ | ⟨nobody,same⟩
  · rw [same]
    refine ⟨fun none => ⟨o,decides,none⟩,?_⟩
    rintro ⟨o',decides',none⟩
    rwa [decidesOnce decides decides']
  · rw [same]
    refine iff_of_false lasting ?_
    rintro ⟨o,⟨before,after,split,-⟩,-⟩
    rw [nobody] at split
    simp at split

theorem Spent.listed (spent : s.Spent key) : ∃ o ∈ s.ttlOverrides, o.2 ≤ Quantity.ofInt 0 := by
  obtain ⟨o,⟨before,after,split,-⟩,none⟩ := spent
  have mem : o ∈ s.matching key := by simp [split]
  exact ⟨o,(List.mem_filter.mp mem).1,none⟩

end Settings

variable [Quantity τ]

namespace Store

structure Withers (s : Store τ) (settings : Settings τ) (now : τ) (raw data : Value) (key : String) : Prop where
  admitted : s.gate.admitKey raw = .ok key
  room : s.limiter.HasRoom now key
  weighed : ∃ size, s.gate.measure data = .ok size
  spent : settings.Spent key

variable {s : Store τ} {now : τ} {raw data : Value} {o : Options τ}

theorem landLasts (now : τ) (key : String) (ttl : τ) (data : Value) (tagged : o.tags ≠ .error .nonPositiveTtl) :
    Op.Blames (fun f => f.failure ≠ .nonPositiveTtl) (land now key ttl data o) := by
  have foreign {f : Fault} (own : f.OfSink) : f.failure ≠ .nonPositiveTtl := by
    intro same
    rw [Fault.OfSink,same] at own
    cases own
  refine Op.blamesBind ((makeRoomBlames now key).mono fun _ => foreign) fun _ => ?_
  refine Op.blamesBind (Op.blamesChange _) fun _ => Op.blamesBind (Op.blamesLift fun why bad => ?_) fun tags => ?_
  · rintro (rfl : why = .nonPositiveTtl)
    exact tagged bad
  · exact Op.blamesBind (Op.blamesChange _) fun _ =>
      Op.blamesBind (reportSizeBlames.mono fun _ => foreign) fun _ => Op.blamesPure _

theorem refusedTtl (tagged : o.tags ≠ .error .nonPositiveTtl) :
    (set now raw data o s).1 = .error (.of .nonPositiveTtl) ↔ ∃ key, s.gate.admitKey raw = .ok key ∧
      s.limiter.HasRoom now key ∧ (∃ size, s.gate.measure data = .ok size) ∧
      o.ttl.getD (s.ttlFor key) ≤ Quantity.ofInt 0 := by
  constructor
  · intro failed
    rcases stopsOrLands s now raw data o with ⟨why,s',stops⟩ | ⟨key,lands⟩
    · rw [setStops stops] at failed
      cases failed
      cases stops with
      | unnamed refused => exact absurd refused Gate.admitLasts
      | heavy admitted room refused => exact absurd refused Gate.measureLasts
      | fleeting admitted room weighed spent => exact ⟨_,admitted,room,⟨_,weighed⟩,spent⟩
    · rw [setLands lands] at failed
      exact absurd rfl (landLasts now key _ data tagged _ _ failed)
  · rintro ⟨key,admitted,room,⟨size,weighed⟩,spent⟩
    rw [setStops (.fleeting admitted room weighed spent)]

theorem withersIff {settings : Settings τ} (own : s.ttlFor = settings.ttlFor)
    (lasting : ¬ settings.defaultTtl ≤ Quantity.ofInt 0) (tagged : o.tags ≠ .error .nonPositiveTtl)
    (unnamed : o.ttl = none) :
    (set now raw data o s).1 = .error (.of .nonPositiveTtl) ↔ ∃ key, s.Withers settings now raw data key := by
  rw [refusedTtl tagged,unnamed,own]
  constructor
  · rintro ⟨key,admitted,room,weighed,spent⟩
    exact ⟨key,admitted,room,weighed,(Settings.spentIff lasting).mp spent⟩
  · rintro ⟨key,admitted,room,weighed,spent⟩
    exact ⟨key,admitted,room,weighed,(Settings.spentIff lasting).mpr spent⟩

end Store

namespace Coordinator
variable {c c₁ : Coordinator τ} {now : τ} {n : Nat} {t : Task τ} {v : Value}

omit [Quantity τ] in
theorem passesIff {key : String} : c.passes key v = true ↔
    (c.refusesSensitive = true → c.store.gate.enforce key v = .ok ()) := by
  unfold passes
  cases c.refusesSensitive <;> cases c.store.gate.enforce key v <;> simp [Except.isOk,Except.toBool]

theorem completeBlocked (current : t.superseded = false) (blocked : ¬ c.passes t.key v = true) :
    ∃ why, c.store.gate.enforce t.key v = .error why ∧ completeFetch now t v c = (.error (.of why),c) := by
  obtain ⟨strict,refused⟩ := Classical.not_imp.mp (mt passesIff.mpr blocked)
  cases scanned : c.store.gate.enforce t.key v with
  | ok u => exact absurd scanned refused
  | error why =>
    have lifted : Op.liftFailure (c.store.gate.enforce t.key v) c = (.error (.of why),c) := by
      rw [scanned]
      rfl
    have wrote : writeResult now t v c = (.error (.of why),c) := by
      rw [writeResult,Op.bind_ok (show Op.read c = (.ok c,c) from rfl),if_pos strict,Op.bind_error lifted]
    refine ⟨why,rfl,?_⟩
    rw [completeFetch,if_neg (by simp [current]),Op.bind_error wrote]

theorem completeRefused : (completeFetch now t v c).1 = .error (.of .nonPositiveTtl) ↔
    t.superseded = false ∧ c.passes t.key v = true ∧
      (Store.set now (.str t.key) v ⟨t.ttl,.ok t.tags,t.version,none⟩ c.store).1 = .error (.of .nonPositiveTtl) := by
  cases current : t.superseded with
  | true =>
    rw [completeSuperseded c now v current]
    exact iff_of_false nofun fun bad => Bool.false_ne_true bad.1.symm
  | false =>
    by_cases passes : c.passes t.key v = true
    · cases written : Store.set now (.str t.key) v ⟨t.ttl,.ok t.tags,t.version,none⟩ c.store with
      | mk r s =>
        rw [completeCurrent current (passesIff.mp passes) written]
        cases r <;> simp [Except.map,passes]
    · refine iff_of_false (fun failed => ?_) fun bad => passes bad.2.1
      obtain ⟨why,refused,completed⟩ := @completeBlocked τ _ c now t v current passes
      rw [completed] at failed
      cases failed
      exact Gate.enforceLasts refused

theorem completeWaiting : (completeFetch now t v c).2.waiting = c.waiting := by
  have moves : Op.Moves (fun c c' : Coordinator τ => c'.waiting = c.waiting) (completeFetch now t v) := by
    unfold completeFetch
    split
    · exact Op.movesPure _
    · exact Op.movesBind (writeResultMoves (fun _ _ => rfl) now t v) fun _ => Op.movesPure _
  exact Op.movesView (·.waiting) moves c

variable {p : Pursuit} {a : Attempt}

theorem broughtTold (found : c.tasks.get? n = some t) (fetches : t.purpose = .fetch) (begun : t.pursuit = some p)
    (brought : onLine (Line.advance c.service now p a) c = (.ok (.done v),c₁)) {caller : String}
    (waits : c.waiting.get? caller = some n) (f : Fault) :
    (caller,.error f) ∈ c.told now (.advance n a) ↔ (completeFetch now t v c₁).1 = .error f := by
  have waits' : (completeFetch now t v c₁).2.waiting.get? caller = some n := by
    obtain rfl : (onLine (Line.advance c.service now p a) c).2 = c₁ := congrArg Prod.snd brought
    rw [completeWaiting]
    exact waits
  have told : c.told now (.advance n a) =
      ((completeFetch now t v c₁).2.endFetch n t (completeFetch now t v c₁).1).1.results := by
    rw [told,report,advance]
    simp only [found,begun,brought,conclude,fetches]
  rw [told]
  simp only [endFetch,Report.results,List.mem_map,List.mem_filter,beq_iff_eq,Prod.mk.injEq]
  constructor
  · rintro ⟨e,-,-,same⟩
    exact same
  · intro same
    exact ⟨(caller,n),⟨Assoc.getMem waits',rfl⟩,rfl,same⟩

/-! What a fetch is opened with, it ends with. -/

omit [Quantity τ] in
theorem shareOpens {caller key : String} {r : Request τ} {tags : List Tag}
    (opened : share caller key r tags c = (.ok (.waits n true),c₁)) :
    n < c₁.nextTask ∧ ∃ t, c₁.tasks.get? n = some t ∧ t.purpose = .fetch ∧ t.ttl = r.ttl := by
  obtain ⟨_,_,read,rest⟩ := Op.bindOk opened
  cases read
  cases free : c.slots.get? key with
  | some m =>
    simp only [free] at rest
    obtain ⟨_,_,-,last⟩ := Op.bindOk rest
    cases last
  | none =>
    simp only [free] at rest
    obtain ⟨m,_,added,rest⟩ := Op.bindOk rest
    obtain ⟨_,_,changed,last⟩ := Op.bindOk rest
    cases added
    cases changed
    cases last
    exact ⟨Nat.lt_succ_self _,_,Assoc.putSame _ _ _,rfl,rfl⟩

theorem fetchOpens {caller : String} {raw : Value} {r : Request τ}
    (opened : fetch now caller raw r c = (.ok (.waits n true),c₁)) :
    n < c₁.nextTask ∧ ∃ t, c₁.tasks.get? n = some t ∧ t.purpose = .fetch ∧ t.ttl = r.ttl := by
  obtain ⟨key,admitted,-⟩ := fetchAdmitted opened
  obtain ⟨c₂,given,-,shared⟩ := fetchShares admitted opened
  exact shareOpens shared

theorem openedLasts {first later : List (τ × Use τ)} {caller : String} {raw : Value} {r : Request τ}
    (opened : (fetch now caller raw r (c.used first)).1 = .ok (.waits n true))
    (found : (c.used (first ++ (now,.step (.fetch caller raw r)) :: later)).tasks.get? n = some t) :
    t.purpose = .fetch ∧ t.ttl = r.ttl := by
  obtain ⟨known,t₀,found₀,fetches,own⟩ := fetchOpens (c := c.used first) (Prod.ext opened rfl)
  have split : c.used (first ++ (now,.step (.fetch caller raw r)) :: later) =
      ((fetch now caller raw r (c.used first)).2).used later := List.foldl_append
  rw [split] at found
  obtain ⟨t₁,found₁,follows⟩ := (usedOnward _ later).tasks n t known found
  cases found₀.symm.trans found₁
  exact ⟨follows.purpose.trans fetches,follows.ttl.trans own⟩

/-- Who is refused for want of a time to live, of those who name none: writes, and those who wait for a fetch whose
call has brought data. -/
structure Refuses (settings : Settings τ) (c : Coordinator τ) : Prop where
  writes : ∀ now raw data (o : Options τ) given, o.ttl = none → o.tags = Tag.collectGiven given →
    ((Store.set now raw data o c.store).1 = .error (.of .nonPositiveTtl) ↔
      ∃ key, c.store.Withers settings now raw data key)
  fetches : ∀ now n t p a v c₁ caller, c.tasks.get? n = some t → t.purpose = .fetch → t.ttl = none →
    t.pursuit = some p → onLine (Line.advance c.service now p a) c = (.ok (.done v),c₁) →
    c.waiting.get? caller = some n →
    ((caller,.error (.of .nonPositiveTtl)) ∈ c.told now (.advance n a) ↔
      t.superseded = false ∧ c.passes t.key v = true ∧ ∃ key, c.store.Withers settings now (.str t.key) v key)

theorem settingsRefuse {settings : Settings τ} (own : c.store.ttlFor = settings.ttlFor)
    (lasting : ¬ settings.defaultTtl ≤ Quantity.ofInt 0) : c.Refuses settings := by
  refine ⟨fun now raw data o given unnamed tagged => ?_,?_⟩
  · exact Store.withersIff own lasting (tagged ▸ Tag.collectLasts) unnamed
  · intro now n t p a v c₁ caller found fetches unnamed begun brought waits
    rw [broughtTold found fetches begun brought waits,completeRefused]
    obtain rfl : (onLine (Line.advance c.service now p a) c).2 = c₁ := congrArg Prod.snd brought
    -- the line leaves the store its limiter, its gate and its times to live
    have written : (Store.set now (.str t.key) v ⟨t.ttl,.ok t.tags,t.version,none⟩
        (onLine (Line.advance c.service now p a) c).2.store).1 = .error (.of .nonPositiveTtl) ↔
        ∃ key, (onLine (Line.advance c.service now p a) c).2.store.Withers settings now (.str t.key) v key :=
      Store.withersIff own lasting nofun unnamed
    refine and_congr_right fun _ => and_congr_right fun _ => written.trans ?_
    exact exists_congr fun key => ⟨fun ⟨admitted,room,weighed,spent⟩ => ⟨admitted,room,weighed,spent⟩,
      fun ⟨admitted,room,weighed,spent⟩ => ⟨admitted,room,weighed,spent⟩⟩

end Coordinator

namespace Settings
open Coordinator

theorem coordinatorMade {s : Settings τ} {sink : Sink τ} {c : Coordinator τ} (built : s.coordinator sink = .ok c) :
    ∃ gate store, Store.create s.maxSize s.ttlFor gate s.security.limiter
      (.create s.maxSize (Quantity.ratio 60 1) s.health sink) = .ok store ∧ c.store = store := by
  obtain ⟨store,made,last⟩ := exceptBindIff.mp built
  obtain ⟨gate,-,made⟩ := exceptBindIff.mp made
  cases last
  exact ⟨gate,store,made,rfl⟩

/-- In every run of a coordinator built from settings that validation accepts, a write or a fetch that names no time
to live is refused for want of one exactly if it passes all other checks and the override that decides about its key
is not positive. Where no override is, none is refused. -/
theorem refusedTtlIff {s : Settings Number} (accepted : s.Accepted) {sink : Sink Number} {c : Coordinator Number}
    (built : s.coordinator sink = .ok c) {run : List (Number × Use Number)}
    (within : ∀ m ∈ run, m.2.Within fun _ _ => True) :
    (c.used run).Refuses s ∧
      (∀ first now caller raw r later n t, run = first ++ (now,.step (.fetch caller raw r)) :: later →
        (fetch now caller raw r (c.used first)).1 = .ok (.waits n true) → (c.used run).tasks.get? n = some t →
        t.purpose = .fetch ∧ t.ttl = r.ttl) ∧
      ((∀ o ∈ s.ttlOverrides, ¬ o.2 ≤ Quantity.ofInt 0) → ∀ key, ¬ s.Spent key) := by
  obtain ⟨gate,store,made,holds⟩ := coordinatorMade built
  have terms := (usedStanding Meter.workingAny Meter.lookingAny made holds within).terms
  refine ⟨settingsRefuse (congrArg Store.Terms.ttlFor terms) accepted.lasting,?_,fun positive key spent => ?_⟩
  · rintro first now caller raw r later n t rfl opened found
    exact openedLasts opened found
  · obtain ⟨o,listed,none⟩ := spent.listed
    exact positive o listed none

def groupless : List (Value × Value) :=
  [(.str "per_key_ttl_overrides",.dict [(.str "group:",.int 0)])]

def grouplessTest : Settings Number :=
  { layer .test with environment := .test, ttlOverrides := [("group:",.real (Decimal.ofWhole 0))] }

theorem grouplessRead : forEnvironment (some (.str "test")) [] groupless = .ok grouplessTest := rfl

def grouplessCache (screens : List Screen) : Coordinator Number :=
  create ⟨50,grouplessTest.ttlFor,⟨screens,256,1024 * 1024⟩,grouplessTest.security.limiter,
      .create 50 (Quantity.ratio 60 1) grouplessTest.health .journal,.empty,.empty⟩
    grouplessTest.breaker.rule grouplessTest.service true false

theorem usualGate : ∃ screens, (SecurityRules.usual : SecurityRules Number).gate = .ok ⟨screens,256,1024 * 1024⟩ := by
  have compiled : (Pattern.screensOr Pattern.sensitive).isOk = true := by decide +kernel
  cases read : Pattern.screensOr Pattern.sensitive with
  | error why => rw [read] at compiled; cases compiled
  | ok screens =>
    refine ⟨screens,?_⟩
    change (Pattern.screensOr Pattern.sensitive >>= _) = _
    rw [read]
    rfl

theorem grouplessBuilt : ∃ screens, grouplessTest.coordinator .journal = .ok (grouplessCache screens) := by
  obtain ⟨screens,gate⟩ := usualGate
  refine ⟨screens,?_⟩
  rw [coordinator,store,show grouplessTest.security.gate = _ from gate]
  rfl

def untimed : String × Number := ("group:",.real (Decimal.ofWhole 0))

theorem grouplessMatches (key : String) :
    grouplessTest.matching key = if "group:".isPrefixOf key then [untimed] else [] := by
  change [untimed].filter (fun o => o.1.isPrefixOf key) = _
  rw [List.filter_singleton,Bool.cond_eq_ite]
  rfl

theorem grouplessSpent : grouplessTest.Spent "group:1" := by
  have starts : "group:".isPrefixOf "group:1" = true := by decide +kernel
  refine ⟨untimed,⟨[],[],?_,nofun,nofun⟩,by decide +kernel⟩
  rw [grouplessMatches,if_pos starts]
  rfl

theorem othersLast : ¬ grouplessTest.Spent "user:1" := by
  have other : ¬ "group:".isPrefixOf "user:1" = true := by decide +kernel
  rintro ⟨o,⟨before,after,split,-⟩,-⟩
  rw [grouplessMatches,if_neg other] at split
  simp at split

def asked : List (Number × Use Number) := [
  (.whole 1000,.step (.fetch "a" (.str "group:1") openRequest)),
  (.whole 1000,.step (.begin 0))]

def brings : Step Number := .advance 0 (.returned (.int 7))

theorem grouplessTurns {screens : List Screen} (refuses : ((grouplessCache screens).used asked).Refuses grouplessTest) :
    let c := (grouplessCache screens).used asked
    let set (key : String) := (Store.set (.whole 1001) (.str key) (.int 7) (Options.none Number) c.store).1
    set "group:1" = .error (.of .nonPositiveTtl) ∧ set "user:1" ≠ .error (.of .nonPositiveTtl) ∧
      (onLine (Line.advance c.service (.whole 1001) ⟨"rpc",2,0⟩ (.returned (.int 7))) c).1 = .ok (.done (.int 7)) ∧
      ("a",.error (.of .nonPositiveTtl)) ∈ c.told (.whole 1001) brings := by
  intro c set
  have withers : c.store.Withers grouplessTest (.whole 1001) (.str "group:1") (.int 7) "group:1" :=
    ⟨rfl,nofun,⟨1,rfl⟩,grouplessSpent⟩
  have tagged : (Options.none Number).tags = Tag.collectGiven .null := rfl
  have found : c.tasks.get? 0 =
      some ⟨.fetch,"group:1","load",none,[],none,"rpc",false,some ⟨"rpc",2,0⟩⟩ := rfl
  have brought : onLine (Line.advance c.service (.whole 1001) ⟨"rpc",2,0⟩ (.returned (.int 7))) c =
      (.ok (.done (.int 7)),_) := rfl
  refine ⟨?_,fun refused => ?_,congrArg Prod.fst brought,?_⟩
  · exact (refuses.writes _ _ _ _ .null rfl tagged).mpr ⟨"group:1",withers⟩
  · obtain ⟨key,withers⟩ := (refuses.writes _ _ _ _ .null rfl tagged).mp refused
    cases withers.admitted
    exact othersLast withers.spent
  · exact (refuses.fetches _ 0 _ _ _ _ _ "a" found rfl rfl rfl brought rfl).mpr ⟨rfl,rfl,"group:1",withers⟩

theorem grouplessRefused : ∃ screens,
    let c := (grouplessCache screens).used asked
    grouplessTest.Accepted ∧ grouplessTest.coordinator .journal = .ok (grouplessCache screens) ∧
      (∀ m ∈ asked, m.2.Within fun _ _ => True) ∧
      (Store.set (.whole 1001) (.str "user:1") (.int 7) (Options.none Number) c.store).1 ≠
        .error (.of .nonPositiveTtl) ∧
      ("a",.error (.of .nonPositiveTtl)) ∈ c.told (.whole 1001) brings := by
  obtain ⟨screens,built⟩ := grouplessBuilt
  have accepted : grouplessTest.Accepted := environmentAccepted grouplessRead
  have within : ∀ m ∈ asked, m.2.Within fun _ _ => True := by simp [asked,Use.Within]
  obtain ⟨-,other,-,told⟩ := grouplessTurns (refusedTtlIff accepted built within).1
  exact ⟨screens,accepted,built,within,other,told⟩

/-- Validation takes the settings, and each call for the group brings its data in vain. -/
theorem groupTurnedAway : ∃ (s : Settings Number) (c : Coordinator Number),
    forEnvironment (some (.str "test")) [] groupless = .ok s ∧ s.coordinator .journal = .ok c ∧
      (Store.set (.whole 1001) (.str "group:1") (.int 7) (Options.none Number) (c.used asked).store).1 =
        .error (.of .nonPositiveTtl) ∧
      (onLine (Line.advance (c.used asked).service (.whole 1001) ⟨"rpc",2,0⟩ (.returned (.int 7)))
        (c.used asked)).1 = .ok (.done (.int 7)) ∧
      ("a",.error (.of .nonPositiveTtl)) ∈ (c.used asked).told (.whole 1001) brings := by
  obtain ⟨screens,built⟩ := grouplessBuilt
  have lasting := (environmentAccepted grouplessRead).lasting
  obtain ⟨set,-,brought,told⟩ := @grouplessTurns screens (settingsRefuse rfl lasting)
  exact ⟨grouplessTest,grouplessCache screens,grouplessRead,built,set,brought,told⟩

end Settings

end ReadThrough
