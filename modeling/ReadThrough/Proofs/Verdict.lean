import ReadThrough.Proofs.Probe
import ReadThrough.Proofs.Traffic

/-! One verdict per call. A call that is let in goes as its retries would go by themselves, whatever becomes
of the circuit meanwhile. While they go on the circuit is shown nothing; when they end it is shown once what
they end with. The probe of a half-open circuit has no retries, and a call that is turned away no attempt. -/
namespace ReadThrough
variable {τ : Type} [Quantity τ]

def verdict : Except Fault Value → Sign
  | .ok _ => .answered
  | .error f => f.sign

omit [Quantity τ] in
def Service.allowing (retries : Int) (s : Service τ) : Service τ := { s with backoff := { s.backoff with retries } }

omit [Quantity τ] in
def Report.named (id : String) : Report τ → Report τ
  | .finished results => .finished (results.map fun r => (id,r.2))
  | r => r

namespace Rehearsal

theorem Retries.advanceUpshot (now : τ) (n : Nat) (a : Attempt) (s : Retries τ) (endpoint : String) :
    s.advance now n a = match Line.upshot s.service ⟨endpoint,s.service.backoff.retries,s.attempt⟩ a with
      | .brought v => (.finished [("",.ok v)],s)
      | .ended error => (.finished [("",.error error)],s)
      | .again error delay => (.resting delay,{ s with attempt := s.attempt + 1,
                                                       retries := s.retries ++ [(s.attempt + 1,error,delay)] }) := by
  cases a with
  | returned v => rfl
  | cancelled => rfl
  | timedOut | raised raw =>
    simp only [advance,Line.upshot,Line.upshot.afterError]
    generalize Backoff.decide (τ := τ) _ _ _ _ _ = decided
    rcases decided with why | error | ⟨error,delay⟩ <;> rfl

inductive Stage (τ : Type) where
  | due (s : Retries τ)
  | ended (r : Except Fault Value)

namespace Stage

omit [Quantity τ] in
def start (service : Service τ) : Stage τ := .due ⟨service,0,[]⟩

def take (a : Attempt) : Stage τ → Stage τ
  | .due s => match s.advance Quantity.zero 0 a with
    | (.finished [(_,r)],_) => .ended r
    | (_,s) => .due s
  | .ended r => .ended r

theorem takeUpshot (a : Attempt) (s : Retries τ) (endpoint : String) :
    (due s).take a = match Line.upshot s.service ⟨endpoint,s.service.backoff.retries,s.attempt⟩ a with
      | .brought v => .ended (.ok v)
      | .ended error => .ended (.error error)
      | .again error delay => .due { s with attempt := s.attempt + 1,
                                            retries := s.retries ++ [(s.attempt + 1,error,delay)] } := by
  rw [take,s.advanceUpshot Quantity.zero 0 a endpoint]
  cases Line.upshot s.service ⟨endpoint,s.service.backoff.retries,s.attempt⟩ a <;> rfl

def takes (s : Stage τ) (as : List Attempt) : Stage τ := as.foldl (fun s a => s.take a) s

omit [Quantity τ] in
def call (c : Call) : Stage τ → Option Call
  | .due s => some { c with pursuit := some ⟨c.endpoint,s.service.backoff.retries,s.attempt⟩ }
  | .ended _ => none

def shown (now : τ) (b : Breaker τ) : Stage τ → Breaker τ
  | .due _ => b
  | .ended r => b.heed now (verdict r)

theorem againAllowed {service : Service τ} {p : Pursuit} {a : Attempt} {error : Fault} {delay : τ}
    (again : Line.upshot service p a = .again error delay) : (p.attempt : Int) < p.retries := by
  have decided {raw : Fault} (again : Line.upshot.afterError service p raw = .again error delay) :
      (p.attempt : Int) < p.retries := by
    simp only [Line.upshot.afterError,Backoff.decide] at again
    split at again
    · cases again
    · split at again
      · cases again
      · rename_i more
        simp only [Bool.or_eq_true,decide_eq_true_eq,not_or,Int.not_le] at more
        exact more.2
  cases a with
  | returned v => cases again
  | cancelled => cases again
  | timedOut => exact decided again
  | raised raw => exact decided again

theorem takesEnded (r : Except Fault Value) (as : List Attempt) : (ended r : Stage τ).takes as = .ended r := by
  induction as with
  | nil => rfl
  | cons a rest ih => exact ih

theorem takesDue {s s' : Retries τ} {as : List Attempt} (goes : (due s).takes as = .due s') :
    s'.service = s.service ∧ s'.attempt = s.attempt + as.length ∧
      (as ≠ [] → (s'.attempt : Int) ≤ s.service.backoff.retries) := by
  induction as generalizing s with
  | nil =>
    cases goes
    exact ⟨rfl,rfl,fun some => absurd rfl some⟩
  | cons a rest ih =>
    change ((due s).take a).takes rest = .due s' at goes
    rw [takeUpshot a s ""] at goes
    cases came : Line.upshot s.service ⟨"",s.service.backoff.retries,s.attempt⟩ a with
    | brought v =>
      rw [came] at goes
      cases (takesEnded _ rest).symm.trans goes
    | ended error =>
      rw [came] at goes
      cases (takesEnded _ rest).symm.trans goes
    | again error delay =>
      have allowed : (s.attempt : Int) < s.service.backoff.retries := againAllowed came
      rw [came] at goes
      obtain ⟨serves,made,bounded⟩ := ih goes
      simp only [List.length_cons] at made ⊢
      refine ⟨serves,by omega,fun _ => ?_⟩
      cases rest with
      | nil =>
        simp only [List.length_nil] at made
        omega
      | cons b rest => exact bounded nofun

theorem soleAttempt (service : Service τ) (a : Attempt) (as : List Attempt) :
    ∃ r, (start (service.allowing 0)).takes (a :: as) = .ended r := by
  cases reached : (start (service.allowing 0)).takes (a :: as) with
  | ended r => exact ⟨r,rfl⟩
  | due s =>
    obtain ⟨-,made,bounded⟩ := takesDue reached
    have allowed : (s.attempt : Int) ≤ 0 := bounded nofun
    simp only [List.length_cons] at made
    omega

end Stage

def Act.attempt? (n : Nat) : Act → Option Attempt
  | .finish k a => if k = n then some a else none
  | _ => none

def attempts (n : Nat) (run : List (τ × Act)) : List Attempt := run.filterMap (·.2.attempt? n)

namespace Exchange
variable {e : Exchange τ} {now : τ} {n : Nat} {c : Call} {s : Stage τ}

theorem Goes.keeps {a : Act} {x : Report τ × Exchange τ} (goes : Goes e now a x) (other : a.attempt? n = none)
    (known : n < e.next) : x.2.calls.get? n = e.calls.get? n := by
  have elsewhere {k : Nat} {a : Attempt} (other : (Act.finish k a).attempt? n = none) : k ≠ n := by
    rintro rfl
    simp [Act.attempt?] at other
  cases goes with
  | refused f asks stirs => rw [Assoc.get?_erase,if_neg (Nat.ne_of_gt known)]
  | admitted pursuit asks stirs own => rw [Assoc.get?_put,if_neg (Nat.ne_of_gt known)]
  | resting delay found begun still quiet => rw [Assoc.get?_put,if_neg (elsewhere other)]
  | ended r found stirs cleared => rw [Assoc.get?_erase,if_neg (elsewhere other)]
  | absent absent => rfl
  | controlled stirs => rfl

/-- The call is as far as its retries have come by themselves. What is reported at the end of its next
attempt is what they report; its circuit is shown what they have ended with, if they have, and no other one
anything. A call that is over does nothing any more. -/
structure Conducts (e : Exchange τ) (n : Nat) (c : Call) (s : Stage τ) : Prop where
  place : e.calls.get? n = s.call c
  going : ∀ r, s = .due r → ∀ now a,
    (e.act now (.finish n a)).1 = (r.advance Quantity.zero 0 a).1.named c.id ∧
    ∀ endpoint, (e.act now (.finish n a)).2.breaker endpoint =
      if endpoint = c.endpoint then (s.take a).shown now (e.breaker endpoint) else e.breaker endpoint
  silent : ∀ r, s = .ended r → ∀ now a, e.act now (.finish n a) = (.finished [],e)

structure Tracks (e : Exchange τ) (n : Nat) (c : Call) (s : Stage τ) : Prop where
  fit : e.Fit
  quiet : e.line.Quiet
  known : n < e.next
  serves : ∀ r, s = .due r → r.service = e.service.allowing r.service.backoff.retries
  place : e.calls.get? n = s.call c

theorem finishDue {r : Retries τ} (quiet : e.line.Quiet)
    (serves : r.service = e.service.allowing r.service.backoff.retries)
    (place : e.calls.get? n = (Stage.due r).call c) (now : τ) (a : Attempt) :
    ∃ l, e.act now (.finish n a) = ((r.advance Quantity.zero 0 a).1.named c.id,
        { e with line := l, calls := match ((Stage.due r).take a).call c with
                                     | some c' => e.calls.put n c'
                                     | none => e.calls.erase n }) ∧
      ∀ endpoint, l.board.breaker endpoint =
        if endpoint = c.endpoint then ((Stage.due r).take a).shown now (e.breaker endpoint)
        else e.breaker endpoint := by
  let p : Pursuit := ⟨c.endpoint,r.service.backoff.retries,r.attempt⟩
  have same : Line.upshot e.service p a = Line.upshot r.service p a := by
    rw [serves]
    cases a <;> rfl
  have stirs : Line.Stirs now (fun _ => False) c.endpoint e.line _ :=
    Line.chainStirs (Line.followStirs p (Line.upshot e.service p a) e.line)
  obtain ⟨l,ran,own⟩ := Line.followQuiet now p (Line.upshot e.service p a) quiet
  rw [ran] at stirs
  have found : e.calls.get? n = some { c with pursuit := some p } := place
  refine ⟨l,?_,fun endpoint => ?_⟩
  · simp only [act,found,Option.isSome_some,if_true,advance,onLine,Op.within,Line.advanceFollows,ran]
    rw [same,Stage.takeUpshot a r c.endpoint,r.advanceUpshot _ _ a c.endpoint]
    cases Line.upshot r.service p a <;> rfl
  · by_cases here : endpoint = c.endpoint
    · subst here
      rw [if_pos rfl,Stage.takeUpshot a r c.endpoint]
      refine own.trans ?_
      rw [same]
      cases Line.upshot r.service p a <;> rfl
    · rw [if_neg here]
      exact stirs.others endpoint here

theorem trackStep (tracks : e.Tracks n c s) (now : τ) (a : Act) :
    (e.act now a).2.Tracks n c (s.takes (a.attempt? n).toList) := by
  have goes := actGoes tracks.fit now a
  obtain ⟨service,next,quiet⟩ := goes.steady
  have fit := goes.fit tracks.fit
  have known := Nat.lt_of_lt_of_le tracks.known next
  cases ends : a.attempt? n with
  | none =>
    refine ⟨fit,quiet tracks.quiet,known,fun r due => ?_,(goes.keeps ends tracks.known).trans tracks.place⟩
    rw [service]
    exact tracks.serves r due
  | some attempt =>
    obtain rfl : a = .finish n attempt := by
      cases a with
      | finish k a' =>
        simp only [Act.attempt?] at ends
        split at ends
        · rename_i same
          cases ends
          rw [same]
        · cases ends
      | call | execute | control => cases ends
    cases s with
    | ended r =>
      have absent : e.calls.get? n = none := tracks.place
      have ran : e.act now (.finish n attempt) = (.finished [],e) := by simp only [act,absent]
      rw [ran]
      exact tracks
    | due r =>
      obtain ⟨l,ran,-⟩ := finishDue tracks.quiet (tracks.serves r rfl) tracks.place now attempt
      rw [ran] at fit quiet known ⊢
      refine ⟨fit,quiet tracks.quiet,known,fun r' due => ?_,?_⟩
      · rw [(Stage.takesDue due).1]
        exact tracks.serves r rfl
      · change _ = ((Stage.due r).take attempt).call c
        cases (Stage.due r).take attempt with
        | due r' => exact Assoc.putSame _ _ _
        | ended result => exact Assoc.eraseSame _ _

theorem trackRun (tracks : e.Tracks n c s) (run : List (τ × Act)) :
    (e.after run).Tracks n c (s.takes (attempts n run)) := by
  induction run generalizing e s with
  | nil => exact tracks
  | cons m rest ih =>
    have later := ih (trackStep tracks m.1 m.2)
    have same : attempts n (m :: rest) = (m.2.attempt? n).toList ++ attempts n rest := by
      cases ends : m.2.attempt? n <;> simp [attempts,ends]
    rw [same,Stage.takes,List.foldl_append]
    exact later

theorem Tracks.conducts (tracks : e.Tracks n c s) : e.Conducts n c s where
  place := tracks.place
  going r due now a := by
    subst due
    obtain ⟨l,ran,shown⟩ := finishDue tracks.quiet (tracks.serves r rfl) tracks.place now a
    rw [ran]
    exact ⟨rfl,shown⟩
  silent r done now a := by
    subst done
    have absent : e.calls.get? n = none := tracks.place
    simp only [act,absent]

def found (e : Exchange τ) (endpoint : String) (now : τ) : Breaker τ := ((e.breaker endpoint).look now).2

/-- How a call with retries fares. To be let in or turned away shows no circuit anything. Let in through a
closed circuit it has all its retries, through a half-open one a single attempt; turned away it is over. -/
structure Executes (e : Exchange τ) (service : Service τ) (now : τ) (id supplier endpoint : String)
    (x : Report τ × Exchange τ) : Prop where
  entered : ∀ through, x.2.breaker through =
    if through = endpoint then ((e.found endpoint now).enter now).2 else e.breaker through
  closed : (e.found endpoint now).phase = .closed → x.1 = .attempting supplier ∧
    ∀ rest, (x.2.after rest).Conducts e.next ⟨id,supplier,endpoint,none⟩
      ((Stage.start service).takes (attempts e.next rest))
  halfOpen : (e.found endpoint now).phase = .halfOpen → ((e.found endpoint now).enter now).1 = .admitted →
    x.1 = .attempting supplier ∧ (∀ a as, ∃ r, (Stage.start (service.allowing 0)).takes (a :: as) = .ended r) ∧
    ∀ rest, (x.2.after rest).Conducts e.next ⟨id,supplier,endpoint,none⟩
      ((Stage.start (service.allowing 0)).takes (attempts e.next rest))
  rejected : ∀ wait, ((e.found endpoint now).enter now).1 = .rejected wait →
    let error : Fault := .of (.circuitOpen endpoint (wait.map Quantity.toNumber))
    x.1 = .finished [(id,.error error)] ∧
    ∀ rest, (x.2.after rest).Conducts e.next ⟨id,supplier,endpoint,none⟩ (.ended (.error error))

section
variable {id supplier endpoint : String} (fit : e.Fit) (quiet : e.line.Quiet)
include fit quiet

theorem executeEntered (through : String) : (e.act now (.execute id supplier endpoint)).2.breaker through =
    if through = endpoint then ((e.found endpoint now).enter now).2 else e.breaker through := by
  by_cases here : through = endpoint
  · subst here
    obtain ⟨l,own,ran⟩ := asksDecides .execute (.inl quiet)
    rw [if_pos rfl,ran]
    cases (((e.breaker through).look now).2.enter now).1 <;> exact own
  · rw [if_neg here]
    have goes := actGoes fit now (.execute id supplier endpoint)
    generalize e.act now (.execute id supplier endpoint) = x at goes
    cases goes with
    | refused f asks stirs =>
      cases asks
      exact stirs.others through here
    | admitted pursuit asks stirs own =>
      cases asks
      exact stirs.others through here

theorem admittedTracks (admitted : ((e.found endpoint now).enter now).1 = .admitted) (retries : Int)
    (allows : (if ((e.found endpoint now).enter now).2.probing then 0 else e.service.backoff.retries) = retries) :
    (e.act now (.execute id supplier endpoint)).1 = .attempting supplier ∧
    (e.act now (.execute id supplier endpoint)).2.Tracks e.next ⟨id,supplier,endpoint,none⟩
      (Stage.start (e.service.allowing retries)) := by
  have goes := actGoes fit now (.execute id supplier endpoint)
  obtain ⟨l,own,ran⟩ := asksDecides .execute (.inl quiet)
  rw [found] at admitted allows
  rw [admitted,own,allows] at ran
  have fit' := goes.fit fit
  have quiet' := goes.steady.2.2 quiet
  rw [ran] at fit' quiet' ⊢
  refine ⟨rfl,fit',quiet',Nat.lt_succ_self _,fun r due => ?_,Assoc.putSame _ _ _⟩
  cases due
  rfl

theorem rejectedTracks {wait : Option τ} (rejected : ((e.found endpoint now).enter now).1 = .rejected wait)
    (c : Call) (r : Except Fault Value) :
    (e.act now (.execute id supplier endpoint)).1 =
      .finished [(id,.error (.of (.circuitOpen endpoint (wait.map Quantity.toNumber))))] ∧
    (e.act now (.execute id supplier endpoint)).2.Tracks e.next c (.ended r) := by
  have goes := actGoes fit now (.execute id supplier endpoint)
  obtain ⟨l,-,ran⟩ := asksDecides .execute (.inl quiet)
  rw [found] at rejected
  rw [rejected] at ran
  have fit' := goes.fit fit
  have quiet' := goes.steady.2.2 quiet
  rw [ran] at fit' quiet' ⊢
  exact ⟨rfl,fit',quiet',Nat.lt_succ_self _,nofun,Assoc.eraseSame _ _⟩

theorem fitExecutes (now : τ) (id supplier endpoint : String) :
    e.Executes e.service now id supplier endpoint (e.act now (.execute id supplier endpoint)) where
  entered := executeEntered fit quiet
  closed closed := by
    have seen : (e.breaker endpoint).Change now (fun _ => False) (e.found endpoint now) := .looked
    have free : (e.found endpoint now).probing = false :=
      Bool.eq_false_iff.mpr fun probing => seen.sane (fit.sane endpoint) probing closed
    rcases (e.found endpoint now).enterState now with ⟨admitted,-,kept⟩ | ⟨-,halfOpen,-⟩ | ⟨-,-,elsewhere,-⟩
    · obtain ⟨reported,tracks⟩ := admittedTracks fit quiet admitted e.service.backoff.retries (by rw [kept,free]; rfl)
      exact ⟨reported,fun rest => (trackRun tracks rest).conducts⟩
    · cases closed.symm.trans halfOpen
    · exact absurd closed elsewhere
  halfOpen halfOpen admitted := by
    rcases (e.found endpoint now).enterState now with ⟨-,closed,-⟩ | ⟨-,-,-,raised⟩ | ⟨⟨wait,rejected⟩,-⟩
    · cases halfOpen.symm.trans closed
    · obtain ⟨reported,tracks⟩ := admittedTracks fit quiet admitted 0 (by rw [raised]; rfl)
      exact ⟨reported,Stage.soleAttempt e.service,fun rest => (trackRun tracks rest).conducts⟩
    · cases admitted.symm.trans rejected
  rejected wait rejected := by
    obtain ⟨reported,tracks⟩ := rejectedTracks fit quiet rejected ⟨id,supplier,endpoint,none⟩
      (.error (.of (.circuitOpen endpoint (wait.map Quantity.toNumber))))
    refine ⟨reported,fun rest => ?_⟩
    rw [← Stage.takesEnded _ (attempts e.next rest)]
    exact (trackRun tracks rest).conducts

end

/-- In every run, whatever is done before and after, if the sink of a listener takes events: one that refuses them
breaks off the report of an outcome halfway. -/
theorem executesOnce (rule : BreakerRule τ) {meter : Option (Meter τ)}
    (willing : ∀ m, meter = some m → m.sink ≠ .refusing) (service : Service τ) (run : List (τ × Act))
    (now : τ) (id supplier endpoint : String) :
    let e := (create ⟨.create rule,meter⟩ service).after run
    e.Executes service now id supplier endpoint (e.act now (.execute id supplier endpoint)) := by
  intro e
  have fit := createFit rule meter service
  obtain ⟨same,-,quiet⟩ := afterSteady fit run
  have executes := fitExecutes (afterFit fit run) (quiet willing) now id supplier endpoint
  rw [same] at executes
  exact executes

def tripped : List (Number × Act) := [
  (.whole 1000,.execute "early" "slow" "rpc"),(.whole 1000,.call "trip" "bad" "rpc"),
  (.whole 1000,.finish 1 (.raised Watch.dropped))]

theorem probeExecutes :
    let e := (create ⟨.create Watch.briskRule,none⟩ Watch.plainService).after tripped
    (e.found "rpc" (.whole 1010)).phase = .halfOpen ∧ (e.found "rpc" (.whole 1010)).probing = false ∧
      e.Executes Watch.plainService (.whole 1010) "probe" "fine" "rpc"
        (e.act (.whole 1010) (.execute "probe" "fine" "rpc")) := by
  have willing : ∀ m, (none : Option (Meter Number)) = some m → m.sink ≠ .refusing :=
    fun _ attached => nomatch attached
  refine ⟨by decide,by decide,?_⟩
  exact executesOnce Watch.briskRule willing Watch.plainService tripped (.whole 1010) "probe" "fine" "rpc"

end Exchange
end Rehearsal
end ReadThrough
