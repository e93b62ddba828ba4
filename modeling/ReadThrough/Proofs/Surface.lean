import ReadThrough.Proofs.Judging

/-! What a call with retries can end with: a value, a failure of the ledger, or its cancellation, unless an
attempt ends with an error that cannot be judged. A call that is turned away is told so. -/
namespace ReadThrough
variable {τ : Type} [Quantity τ]

namespace Attempt

def error? : Attempt → Option Fault
  | .returned _ => none
  | .cancelled => none
  | .timedOut => some .timeUp
  | .raised raw => some raw

def Slips (service : Service τ) (retries : Int) (made : Nat) (a : Attempt) : Prop :=
  ∃ raw, a.error? = some raw ∧ ReadThrough.Slips service retries made raw

end Attempt

namespace Line

def Upshot.Surfaces (slips : Prop) : Upshot τ → Prop
  | .ended error => Promised (.error error) ↔ ¬ slips
  | _ => ¬ slips

theorem decidedSurfaces (service : Service τ) (retries : Int) (made : Nat) (raw : Fault) :
    (Upshot.decided ((service.allowing retries).backoff.decide service.limit service.draw made raw)).Surfaces
      (Slips service retries made raw) := by
  rw [← Backoff.decideFails]
  cases decided : (service.allowing retries).backoff.decide service.limit service.draw made raw with
  | error why =>
    exact ⟨fun promised => absurd promised (Backoff.decideUnpromised decided),fun held => absurd ⟨why,rfl⟩ held⟩
  | ok sequel =>
    cases sequel with
    | giveUp error => exact ⟨fun _ => nofun,fun _ => .inl (Backoff.decideGivesUp decided)⟩
    | again error delay => exact nofun

theorem upshotSurfaces (service : Service τ) (p : Pursuit) (a : Attempt) :
    (upshot service p a).Surfaces (a.Slips service p.retries p.attempt) := by
  have sole (raw : Fault) (came : a.error? = some raw) :
      a.Slips service p.retries p.attempt ↔ Slips service p.retries p.attempt raw := by
    rw [Attempt.Slips,came]
    exact ⟨fun ⟨_,same,slips⟩ => by cases same; exact slips,fun slips => ⟨raw,rfl,slips⟩⟩
  cases a with
  | returned v => exact fun ⟨_,came,_⟩ => nomatch came
  | cancelled => exact ⟨fun _ ⟨_,came,_⟩ => (nomatch came),fun _ => .inr rfl⟩
  | timedOut | raised =>
    rw [sole _ rfl]
    exact decidedSurfaces service p.retries p.attempt _

end Line

namespace Rehearsal.Exchange

inductive Comes (service : Service τ) (retries : Int) (made : Nat) (a : Attempt) (n : Nat) (id : String)
    (x : Report τ × Exchange τ) : Prop where
  | again (delay : τ) (told : x.1 = .resting delay) (goes : (x.2.calls.get? n).isSome)
      (more : (made : Int) < retries) (judged : ¬ a.Slips service retries made)
  | ends (r : Except Fault Value) (told : x.1 = .finished [(id,r)]) (gone : x.2.calls.get? n = none)
      (judged : Promised r ↔ ¬ a.Slips service retries made)

/-- What a call with retries comes to. Turned away it is told so and makes no attempt. Let in it makes at most
one attempt more than it has retries, and each of them brings another one or its end. -/
structure Surfaces (e : Exchange τ) (service : Service τ) (now : τ) (id supplier endpoint : String)
    (x : Report τ × Exchange τ) : Prop where
  rejected : ∀ wait, ((e.found endpoint now).enter now).1 = .rejected wait →
    x.1 = .finished [(id,.error (.of (.circuitOpen endpoint (wait.map Quantity.toNumber))))] ∧
    ∀ rest, (x.2.after rest).calls.get? e.next = none
  admitted : ((e.found endpoint now).enter now).1 = .admitted →
    x.1 = .attempting supplier ∧ (x.2.calls.get? e.next).isSome
  ended : ∀ rest, (x.2.after rest).calls.get? e.next = none → ∀ later a,
    (x.2.after rest).act later (.finish e.next a) = (.finished [],x.2.after rest)
  goes : ∀ rest, (x.2.after rest).calls.get? e.next ≠ none →
    let retries := if ((e.found endpoint now).enter now).2.probing then 0 else service.backoff.retries
    let made := (attempts e.next rest).length
    (made = 0 ∨ (made : Int) ≤ retries) ∧ ∀ later a,
      Comes service retries made a e.next id ((x.2.after rest).act later (.finish e.next a))

variable {e : Exchange τ} {now : τ} {n : Nat} {id supplier endpoint : String}

theorem Tracks.comes {r : Retries τ} {retries : Int}
    (tracks : e.Tracks n ⟨id,supplier,endpoint,none⟩ (.due r)) (allowed : r.service.backoff.retries = retries)
    (later : τ) (a : Attempt) :
    Comes e.service retries r.attempt a n id (e.act later (.finish n a)) := by
  have serves := tracks.serves r rfl
  rw [allowed] at serves
  -- the service that a call takes along differs from the one it found in its retries alone
  have same : Line.upshot r.service ⟨endpoint,retries,r.attempt⟩ a =
      Line.upshot e.service ⟨endpoint,retries,r.attempt⟩ a := by
    rw [serves]
    cases a <;> rfl
  have surfaces := Line.upshotSurfaces e.service ⟨endpoint,retries,r.attempt⟩ a
  have told := (tracks.conducts.going r rfl later a).1
  have place := (trackStep tracks later (.finish n a)).place
  rw [r.advanceUpshot _ _ a endpoint,allowed,same] at told
  rw [Act.attempt?,if_pos rfl] at place
  change _ = ((Stage.due r).take a).call _ at place
  rw [Stage.takeUpshot a r endpoint,allowed,same] at place
  cases came : Line.upshot e.service ⟨endpoint,retries,r.attempt⟩ a with
  | brought v =>
    rw [came] at told place surfaces
    exact .ends (.ok v) told place ⟨fun _ => surfaces,fun _ => trivial⟩
  | ended error =>
    rw [came] at told place surfaces
    exact .ends (.error error) told place surfaces
  | again error delay =>
    rw [came] at told place surfaces
    exact .again delay told (by rw [place]; rfl) (Stage.againAllowed came) surfaces

theorem fitSurfaces (fit : e.Fit) (quiet : e.line.Quiet) (now : τ) (id supplier endpoint : String) :
    e.Surfaces e.service now id supplier endpoint (e.act now (.execute id supplier endpoint)) := by
  have silent (rest : List (τ × Act)) {x : Exchange τ} (gone : (x.after rest).calls.get? e.next = none) (later : τ)
      (a : Attempt) : (x.after rest).act later (.finish e.next a) = (.finished [],x.after rest) := by
    simp only [act,gone]
  cases entered : ((e.found endpoint now).enter now).1 with
  | rejected wait =>
    obtain ⟨told,tracks⟩ := @rejectedTracks _ _ _ _ id supplier _ fit quiet _ entered
      ⟨id,supplier,endpoint,none⟩ (.error (.of (.circuitOpen endpoint (wait.map Quantity.toNumber))))
    have gone (rest : List (τ × Act)) :
        ((e.act now (.execute id supplier endpoint)).2.after rest).calls.get? e.next = none := by
      rw [(trackRun tracks rest).place,Stage.takesEnded]
      rfl
    refine ⟨fun wait' rejected => ?_,fun admitted => ?_,fun rest => silent rest,fun rest going => ?_⟩
    · cases entered.symm.trans rejected
      exact ⟨told,gone⟩
    · cases entered.symm.trans admitted
    · exact absurd (gone rest) going
  | admitted =>
    obtain ⟨told,tracks⟩ := @admittedTracks _ _ _ _ id supplier _ fit quiet entered _ rfl
    refine ⟨fun wait rejected => ?_,fun _ => ⟨told,by rw [tracks.place]; rfl⟩,fun rest => silent rest,
      fun rest going => ?_⟩
    · cases entered.symm.trans rejected
    · -- the call is as far as its retries have come by themselves, and those tell what it may still do
      have tracked := trackRun tracks rest
      intro retries made
      have serves : ((e.act now (.execute id supplier endpoint)).2.after rest).service = e.service :=
        (afterSteady tracks.fit rest).1.trans (actGoes fit now (.execute id supplier endpoint)).steady.1
      cases reached : (Stage.start (e.service.allowing retries)).takes (attempts e.next rest) with
      | ended r =>
        rw [reached] at tracked
        exact absurd tracked.place going
      | due r =>
        rw [reached] at tracked
        obtain ⟨kept,counted,bounded⟩ := Stage.takesDue reached
        have allowed : r.service.backoff.retries = retries := by rw [kept]; rfl
        have counted : r.attempt = made := counted.trans (Nat.zero_add _)
        have comes := tracked.comes allowed
        rw [serves,counted] at comes
        refine ⟨?_,comes⟩
        by_cases first : attempts e.next rest = []
        · exact .inl (congrArg List.length first)
        · rw [← counted]
          exact .inr (bounded first)

theorem surfacesIff (rule : BreakerRule τ) {meter : Option (Meter τ)}
    (willing : ∀ m, meter = some m → m.sink ≠ .refusing) (service : Service τ) (run : List (τ × Act))
    (now : τ) (id supplier endpoint : String) :
    let e := (create ⟨.create rule,meter⟩ service).after run
    e.Surfaces service now id supplier endpoint (e.act now (.execute id supplier endpoint)) := by
  intro e
  have fit := createFit rule meter service
  obtain ⟨same,-,quiet⟩ := afterSteady fit run
  have surfaces := fitSurfaces (afterFit fit run) (quiet willing) now id supplier endpoint
  rw [same] at surfaces
  exact surfaces

def patient : Service Number := ⟨⟨3,.whole 1,.whole 2,.whole 0,some (.whole 10)⟩,some (.whole 30),fun low _ => low⟩

def listed : Fault :=
  .mk (.remote .throttled "busy") { Traits.none with retryAfter := some (.list [.str "30",.str "60"]) } none

theorem listedEscapes :
    let e := create ⟨.create Watch.briskRule,none⟩ patient
    let x := e.act (.whole 1000) (.execute "b" "listed" "default")
    x.1 = .attempting "listed" ∧ ¬ ∀ rest later a r,
      ((x.2.after rest).act later (.finish e.next a)).1 = .finished [("b",r)] → Promised r := by
  refine ⟨rfl,fun held => ?_⟩
  have escaped : Promised (.error (.of (.notNumber "list"))) := held [] (.whole 1000) (.raised listed) _ rfl
  rcases escaped with remote | cancelled
  · cases remote
  · cases cancelled

theorem patientSurfaces :
    let e := (create ⟨.create Watch.briskRule,none⟩ patient).after []
    ((e.found "default" (.whole 1000)).enter (.whole 1000)).1 = .admitted ∧
      (Attempt.raised listed).Slips patient 3 0 ∧
      ¬ (Attempt.raised (.of (.remote .network "down"))).Slips patient 3 0 ∧
      e.Surfaces patient (.whole 1000) "b" "listed" "default"
        (e.act (.whole 1000) (.execute "b" "listed" "default")) := by
  have willing : ∀ m, (none : Option (Meter Number)) = some m → m.sink ≠ .refusing :=
    fun _ attached => nomatch attached
  refine ⟨rfl,⟨listed,rfl,.unreadable rfl _ rfl nofun nofun rfl (by decide)⟩,?_,?_⟩
  · rintro ⟨_,came,slips⟩
    cases came
    obtain ⟨why,fails⟩ := Backoff.decideFails.mpr slips
    cases fails
  · exact surfacesIff Watch.briskRule willing patient [] (.whole 1000) "b" "listed" "default"

end Rehearsal.Exchange
end ReadThrough
