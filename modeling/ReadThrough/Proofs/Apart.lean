import ReadThrough.Proofs.Mirror

/-! Endpoints apart from each other. Of a run on many endpoints, what happens at one of them is what happens
there in the run of its own acts alone: who is let in and who is turned away, what is read, and the breaker
after every act. A look at all breakers, or a reset of all of them, is a run of acts, one for each endpoint. -/
namespace ReadThrough.Rehearsal
variable {τ : Type}

/-! The acts at one endpoint. Calls are numbered in the order in which they were asked for. -/

def Act.noted (asked : List String) : Act → List String
  | .call _ _ endpoint | .execute _ _ endpoint => asked ++ [endpoint]
  | _ => asked

def Act.place? (asked : List String) : Act → Option String
  | .call _ _ endpoint | .execute _ _ endpoint => some endpoint
  | .finish n _ => asked[n]?
  | .control c => some c.endpoint

def rank (endpoint : String) (asked : List String) (n : Nat) : Nat := (asked.take n).count endpoint

def Act.renumbered (endpoint : String) (asked : List String) : Act → Act
  | .finish n a => .finish (rank endpoint asked n) a
  | a => a

def alone (endpoint : String) : List String → List (τ × Act) → List (τ × Act)
  | _, [] => []
  | asked, (now, a) :: rest =>
    let later := alone endpoint (a.noted asked) rest
    if a.place? asked = some endpoint then (now, a.renumbered endpoint asked) :: later else later

variable [Quantity τ]

structure Sight (τ : Type) where
  report : Report τ
  told : Except Fault Unit
  breaker : Breaker τ

namespace Exchange

def told (e : Exchange τ) (now : τ) : Act → Except Fault Unit
  | .control c => (c.run now e.line).1
  | _ => .ok ()

def sight (e : Exchange τ) (endpoint : String) (now : τ) (a : Act) : Sight τ :=
  ⟨(e.act now a).1, e.told now a, (e.act now a).2.breaker endpoint⟩

def sights (endpoint : String) : List String → Exchange τ → List (τ × Act) → List (Sight τ)
  | _, _, [] => []
  | asked, e, (now, a) :: rest =>
    let later := sights endpoint (a.noted asked) (e.act now a).2 rest
    if a.place? asked = some endpoint then e.sight endpoint now a :: later else later

end Exchange

/-! Numbers. -/

theorem rankLess {endpoint : String} {asked : List String} {m n : Nat} (order : m < n)
    (there : asked[m]? = some endpoint) : rank endpoint asked m < rank endpoint asked n := by
  have inside : m < asked.length := (List.getElem?_eq_some_iff.mp there).1
  have here : asked[m] = endpoint := (List.getElem?_eq_some_iff.mp there).2
  have next : rank endpoint asked (m + 1) = rank endpoint asked m + 1 := by
    rw [rank,List.take_succ_eq_append_getElem inside,List.count_append,here,List.count_singleton_self]
    rfl
  have later : rank endpoint asked (m + 1) ≤ rank endpoint asked n :=
    (List.take_sublist_take_left (Nat.succ_le_of_lt order)).count_le endpoint
  omega

theorem rankInside {endpoint : String} {asked : List String} {n : Nat} (there : asked[n]? = some endpoint) :
    rank endpoint asked n < asked.count endpoint := by
  have less := rankLess (List.getElem?_eq_some_iff.mp there).1 there
  rwa [rank,rank,List.take_length] at less

theorem rankSame {endpoint : String} {asked : List String} {m n : Nat} (here : asked[m]? = some endpoint)
    (there : asked[n]? = some endpoint) (same : rank endpoint asked m = rank endpoint asked n) : m = n := by
  rcases Nat.lt_trichotomy m n with less | equal | more
  · exact absurd same (Nat.ne_of_lt (rankLess less here))
  · exact equal
  · exact absurd same.symm (Nat.ne_of_lt (rankLess more there))

theorem rankAppend {endpoint : String} {asked : List String} (new : String) {n : Nat}
    (inside : n ≤ asked.length) : rank endpoint (asked ++ [new]) n = rank endpoint asked n := by
  rw [rank,List.take_append_of_le_length inside,rank]

namespace Exchange

structure Mirrors (endpoint : String) (asked : List String) (e e' : Exchange τ) : Prop where
  fit : e.Fit
  line : Line.Agree endpoint e.line e'.line
  service : e.service = e'.service
  next : e.next = asked.length
  next' : e'.next = asked.count endpoint
  calls : ∀ n, asked[n]? = some endpoint → e.calls.get? n = e'.calls.get? (rank endpoint asked n)
  own : ∀ n c, e.calls.get? n = some c → asked[n]? = some c.endpoint

variable {endpoint : String} {asked : List String} {e e' : Exchange τ} {now : τ}

theorem Mirrors.called (mirrors : Mirrors endpoint asked e e') {l l' : Line τ} {calls calls' : Assoc Nat Call}
    (fit : ({ e with line := l, calls, next := e.next + 1 } : Exchange τ).Fit) (agree : Line.Agree endpoint l l')
    {x : Option Call} (mine : ∀ c, x = some c → c.endpoint = endpoint)
    (here : ∀ m, calls.get? m = if e.next = m then x else e.calls.get? m)
    (there : ∀ m, calls'.get? m = if e'.next = m then x else e'.calls.get? m) :
    Mirrors endpoint (asked ++ [endpoint]) { e with line := l, calls, next := e.next + 1 }
      { e' with line := l', calls := calls', next := e'.next + 1 } := by
  have last : (asked ++ [endpoint])[asked.length]? = some endpoint := by simp
  refine ⟨fit,agree,mirrors.service,?_,?_,fun n at' => ?_,fun n c found => ?_⟩
  · rw [List.length_append,List.length_singleton,mirrors.next]
  · rw [List.count_append,List.count_singleton_self,mirrors.next']
  · rw [here,there,mirrors.next,mirrors.next']
    rcases Nat.lt_or_ge n asked.length with inside | outside
    · rw [List.getElem?_append_left inside] at at'
      rw [rankAppend endpoint (Nat.le_of_lt inside),if_neg (Nat.ne_of_gt inside),
        if_neg (Nat.ne_of_gt (rankInside at')),mirrors.calls n at']
    · have same : asked.length = n := by
        have inside := (List.getElem?_eq_some_iff.mp at').1
        rw [List.length_append,List.length_singleton] at inside
        omega
      subst same
      rw [rankAppend endpoint (Nat.le_refl _),rank,List.take_length,if_pos rfl,if_pos rfl]
  · change calls.get? n = some c at found
    rw [here,mirrors.next] at found
    split at found
    · rename_i same
      rw [mine c found,← same]
      exact last
    · have before := mirrors.own n c found
      rw [List.getElem?_append_left (List.getElem?_eq_some_iff.mp before).1]
      exact before

theorem Mirrors.settled (mirrors : Mirrors endpoint asked e e') {l l' : Line τ} {calls calls' : Assoc Nat Call}
    (fit : ({ e with line := l, calls } : Exchange τ).Fit) (agree : Line.Agree endpoint l l') {n : Nat}
    (at' : asked[n]? = some endpoint) {x : Option Call} (mine : ∀ c, x = some c → c.endpoint = endpoint)
    (here : ∀ m, calls.get? m = if n = m then x else e.calls.get? m)
    (there : ∀ m, calls'.get? m = if rank endpoint asked n = m then x else e'.calls.get? m) :
    Mirrors endpoint asked { e with line := l, calls } { e' with line := l', calls := calls' } := by
  refine ⟨fit,agree,mirrors.service,mirrors.next,mirrors.next',fun m at'' => ?_,fun m c found => ?_⟩
  · rw [here,there,mirrors.calls m at'']
    by_cases same : n = m
    · rw [if_pos same,if_pos (same ▸ rfl)]
    · rw [if_neg same,if_neg (mt (rankSame at' at'') same)]
  · change calls.get? m = some c at found
    rw [here] at found
    split at found
    · rename_i same
      rw [mine c found,← same]
      exact at'
    · exact mirrors.own m c found

theorem asksMirrors {a : Act} {id supplier : String} (mirrors : Mirrors endpoint asked e e')
    (asks : a.Asks id supplier endpoint) : (e.act now a).1 = (e'.act now a).1 ∧
      Mirrors endpoint (asked ++ [endpoint]) (e.act now a).2 (e'.act now a).2 := by
  have fit := (actGoes mirrors.fit now a).fit mirrors.fit
  obtain ⟨-,touched⟩ := Line.touchMirrors _ _ mirrors.line
  obtain ⟨same,agree⟩ := Line.enterMirrors now _ _ touched
  rw [asksEnters asks] at fit ⊢
  rw [asksEnters asks]
  rcases entered : Line.enter now endpoint (Line.touch endpoint e.line).2 with ⟨r,l⟩
  rcases entered' : Line.enter now endpoint (Line.touch endpoint e'.line).2 with ⟨r',l'⟩
  rw [entered] at fit
  rw [entered,entered'] at same agree
  cases same
  cases r with
  | error f =>
    exact ⟨rfl,mirrors.called fit agree (fun _ bad => by cases bad) (Assoc.get?_erase e.calls e.next)
      (Assoc.get?_erase e'.calls e'.next)⟩
  | ok u =>
    refine ⟨rfl,mirrors.called fit agree ?_ (fun m => Assoc.get?_put e.calls e.next m _) fun m => ?_⟩
    · rintro c same
      cases same
      rfl
    · dsimp only at agree ⊢
      rw [Assoc.get?_put,agree.breaker,mirrors.service]

theorem finishMirrors (mirrors : Mirrors endpoint asked e e') {n : Nat} (at' : asked[n]? = some endpoint)
    (a : Attempt) :
    (e.act now (.finish n a)).1 = (e'.act now (.finish (rank endpoint asked n) a)).1 ∧
      Mirrors endpoint asked (e.act now (.finish n a)).2
        (e'.act now (.finish (rank endpoint asked n) a)).2 := by
  have fit := (actGoes mirrors.fit now (.finish n a)).fit mirrors.fit
  have same := mirrors.calls n at'
  cases found : e.calls.get? n with
  | none =>
    rw [found] at same
    have still : e.act now (.finish n a) = (.finished [],e) := by simp only [act,found]
    have still' : e'.act now (.finish (rank endpoint asked n) a) = (.finished [],e') := by
      simp only [act,← same]
    rw [still,still']
    exact ⟨rfl,mirrors⟩
  | some c =>
    rw [found] at same
    have mine : c.endpoint = endpoint := Option.some.inj ((mirrors.own n c found).symm.trans at')
    cases begun : c.pursuit with
    | none =>
      obtain ⟨told,agree⟩ := settleMirrors now endpoint a _ _ mirrors.line
      simp only [act,found,← same,begun,Option.isSome_none,Bool.false_eq_true,if_false,advanceBare,onLine,
        Op.within,mine,finish] at fit ⊢
      rw [told]
      exact ⟨rfl,mirrors.settled fit agree at' (fun _ bad => by cases bad) (Assoc.get?_erase e.calls n)
        (Assoc.get?_erase e'.calls (rank endpoint asked n))⟩
    | some p =>
      have through : p.endpoint = endpoint := (mirrors.fit.pursued n c p found begun).trans mine
      have line : Line.Agree p.endpoint e.line e'.line := through ▸ mirrors.line
      obtain ⟨told,agree⟩ := Line.followMirrors now p (Line.upshot e.service p a) _ _ line
      rw [through] at agree
      simp only [act,found,← same,begun,Option.isSome_some,if_true,advance,onLine,Op.within,
        Line.advanceFollows,finish] at fit ⊢
      rcases ran : Line.follow now p (Line.upshot e.service p a) e.line with ⟨r,l⟩
      rcases ran' : Line.follow now p (Line.upshot e'.service p a) e'.line with ⟨r',l'⟩
      rw [ran] at fit
      rw [ran,mirrors.service,ran'] at told agree
      cases told
      rcases r with f | v | ⟨delay,next⟩ <;> dsimp only at fit agree ⊢
      · exact ⟨rfl,mirrors.settled fit agree at' (fun _ bad => by cases bad) (Assoc.get?_erase e.calls n)
          (Assoc.get?_erase e'.calls (rank endpoint asked n))⟩
      · exact ⟨rfl,mirrors.settled fit agree at' (fun _ bad => by cases bad) (Assoc.get?_erase e.calls n)
          (Assoc.get?_erase e'.calls (rank endpoint asked n))⟩
      · refine ⟨rfl,mirrors.settled fit agree at' ?_ (fun m => Assoc.get?_put e.calls n m _)
          (fun m => Assoc.get?_put e'.calls (rank endpoint asked n) m _)⟩
        rintro c' same
        cases same
        exact mine

theorem Mirrors.here (mirrors : Mirrors endpoint asked e e') (now : τ) {a : Act}
    (at' : a.place? asked = some endpoint) :
    e.sight endpoint now a = e'.sight endpoint now (a.renumbered endpoint asked) ∧
      Mirrors endpoint (a.noted asked) (e.act now a).2 (e'.act now (a.renumbered endpoint asked)).2 := by
  have seen {a' : Act} {asked' : List String} (told : e.told now a = e'.told now a')
      (went : (e.act now a).1 = (e'.act now a').1 ∧ Mirrors endpoint asked' (e.act now a).2 (e'.act now a').2) :
      e.sight endpoint now a = e'.sight endpoint now a' ∧
        Mirrors endpoint asked' (e.act now a).2 (e'.act now a').2 := by
    refine ⟨?_,went.2⟩
    rw [sight,sight,went.1,told,Exchange.breaker,Exchange.breaker,went.2.line.breaker]
  cases a with
  | call id supplier through =>
    cases Option.some.inj at'
    exact seen rfl (asksMirrors mirrors .call)
  | execute id supplier through =>
    cases Option.some.inj at'
    exact seen rfl (asksMirrors mirrors .execute)
  | finish n a => exact seen rfl (finishMirrors mirrors at' a)
  | control c =>
    have mine : c.endpoint = endpoint := Option.some.inj at'
    have line : Line.Agree c.endpoint e.line e'.line := mine ▸ mirrors.line
    obtain ⟨told,agree⟩ := c.runMirrors now _ _ line
    rw [mine] at agree
    have fit := (actGoes mirrors.fit now (.control c)).fit mirrors.fit
    exact seen told ⟨rfl,{ mirrors with fit, line := agree }⟩

theorem Mirrors.calledElsewhere (mirrors : Mirrors endpoint asked e e') {l : Line τ} {calls : Assoc Nat Call}
    (fit : ({ e with line := l, calls, next := e.next + 1 } : Exchange τ).Fit)
    (agree : Line.Agree endpoint l e'.line) {through : String} (other : through ≠ endpoint) {x : Option Call}
    (mine : ∀ c, x = some c → c.endpoint = through)
    (here : ∀ m, calls.get? m = if e.next = m then x else e.calls.get? m) :
    Mirrors endpoint (asked ++ [through]) { e with line := l, calls, next := e.next + 1 } e' := by
  refine ⟨fit,agree,mirrors.service,?_,?_,fun n at' => ?_,fun n c found => ?_⟩
  · rw [List.length_append,List.length_singleton,mirrors.next]
  · rw [List.count_append,List.count_singleton,if_neg (by simpa using other),mirrors.next']
    rfl
  · have inside : n < asked.length := by
      have within' := (List.getElem?_eq_some_iff.mp at').1
      rw [List.length_append,List.length_singleton] at within'
      rcases Nat.lt_or_ge n asked.length with inside | outside
      · exact inside
      · have last : n = asked.length := by omega
        subst last
        rw [List.getElem?_concat_length] at at'
        exact absurd (Option.some.inj at') other
    rw [List.getElem?_append_left inside] at at'
    rw [rankAppend through (Nat.le_of_lt inside),← mirrors.calls n at',here,mirrors.next,
      if_neg (Nat.ne_of_gt inside)]
  · change calls.get? n = some c at found
    rw [here,mirrors.next] at found
    split at found
    · rename_i same
      rw [mine c found,← same,List.getElem?_concat_length]
    · have before := mirrors.own n c found
      rw [List.getElem?_append_left (List.getElem?_eq_some_iff.mp before).1]
      exact before

theorem Goes.elsewhere {a : Act} {x : Report τ × Exchange τ} (goes : Goes e now a x)
    (mirrors : Mirrors endpoint asked e e') (counted : x.2.line.counters = e.line.counters)
    (other : a.place? asked ≠ some endpoint) : Mirrors endpoint (a.noted asked) x.2 e' := by
  have fit := goes.fit mirrors.fit
  have agree (same : x.2.breaker endpoint = e.breaker endpoint) : Line.Agree endpoint x.2.line e'.line :=
    ⟨same.trans mirrors.line.breaker,(Line.quietCounted counted).trans mirrors.line.quiet⟩
  -- a call that goes on or ends is none of the endpoint's
  have apart {n : Nat} {c : Call} (found : e.calls.get? n = some c) (other : asked[n]? ≠ some endpoint) :
      endpoint ≠ c.endpoint ∧ ∀ m, asked[m]? = some endpoint → n ≠ m := by
    refine ⟨?_,fun m at' => ?_⟩
    · rintro rfl
      exact other (mirrors.own n c found)
    · rintro rfl
      exact other at'
  cases goes with
  | @refused a id supplier through l f asks stirs =>
    have named : a.place? asked = some through ∧ a.noted asked = asked ++ [through] := by
      cases asks <;> exact ⟨rfl,rfl⟩
    have distant : through ≠ endpoint := fun same => other (named.1.trans (congrArg some same))
    rw [named.2]
    exact mirrors.calledElsewhere fit (agree (stirs.others endpoint (Ne.symm distant))) distant
      (fun _ bad => by cases bad) (Assoc.get?_erase e.calls e.next)
  | @admitted a id supplier through l pursuit asks stirs own =>
    have named : a.place? asked = some through ∧ a.noted asked = asked ++ [through] := by
      cases asks <;> exact ⟨rfl,rfl⟩
    have distant : through ≠ endpoint := fun same => other (named.1.trans (congrArg some same))
    rw [named.2]
    refine mirrors.calledElsewhere fit (agree (stirs.others endpoint (Ne.symm distant))) distant ?_
      (fun m => Assoc.get?_put e.calls e.next m _)
    rintro c same
    cases same
    rfl
  | @resting n a c p l delay found begun still quiet =>
    obtain ⟨-,others⟩ := apart found other
    refine { mirrors with fit, line := agree (still endpoint), calls := fun m at' => ?_, own := fun m c' there => ?_ }
    · rw [Assoc.get?_put,if_neg (others m at')]
      exact mirrors.calls m at'
    · rw [Assoc.get?_put] at there
      split at there
      · rename_i same
        cases there
        exact same ▸ mirrors.own n c found
      · exact mirrors.own m c' there
  | @ended n a c l r found stirs cleared =>
    obtain ⟨distant,others⟩ := apart found other
    refine { mirrors with
      fit, line := agree (stirs.others endpoint distant), calls := fun m at' => ?_, own := fun m c' there => ?_ }
    · rw [Assoc.get?_erase,if_neg (others m at')]
      exact mirrors.calls m at'
    · exact mirrors.own m c' (Assoc.eraseFound there)
  | absent absent => exact mirrors
  | @controlled c l stirs =>
    have distant : endpoint ≠ c.endpoint := fun same => other (congrArg some same.symm)
    exact { mirrors with fit, line := agree (stirs.others endpoint distant) }

theorem Mirrors.elsewhere (mirrors : Mirrors endpoint asked e e') (now : τ) {a : Act}
    (other : a.place? asked ≠ some endpoint) : Mirrors endpoint (a.noted asked) (e.act now a).2 e' :=
  (actGoes mirrors.fit now a).elsewhere mirrors (actCounted e now a) other

/-! Runs. -/

omit [Quantity τ] in
theorem renumberedPlace {a : Act} (at' : a.place? asked = some endpoint) :
    (a.renumbered endpoint asked).place? (List.replicate (asked.count endpoint) endpoint) = some endpoint ∧
      (a.renumbered endpoint asked).noted (List.replicate (asked.count endpoint) endpoint) =
        List.replicate ((a.noted asked).count endpoint) endpoint := by
  have more {through : String} (same : some through = some endpoint) :
      List.replicate (asked.count endpoint) endpoint ++ [through] =
        List.replicate ((asked ++ [through]).count endpoint) endpoint := by
    cases same
    rw [List.count_append,List.count_singleton_self,List.replicate_succ']
  cases a with
  | call id supplier through => exact ⟨at',more at'⟩
  | execute id supplier through => exact ⟨at',more at'⟩
  | finish n a =>
    refine ⟨?_,rfl⟩
    rw [Act.renumbered,Act.place?,List.getElem?_replicate,if_pos (rankInside at')]
  | control c => exact ⟨at',rfl⟩

omit [Quantity τ] in
theorem notedElsewhere {a : Act} (other : a.place? asked ≠ some endpoint) :
    (a.noted asked).count endpoint = asked.count endpoint := by
  have less {through : String} (other : some through ≠ some endpoint) :
      (asked ++ [through]).count endpoint = asked.count endpoint := by
    rw [List.count_append,List.count_singleton,if_neg (by simpa using other)]
    rfl
  cases a with
  | call id supplier through => exact less other
  | execute id supplier through => exact less other
  | _ => rfl

theorem Mirrors.runs (mirrors : Mirrors endpoint asked e e') (run : List (τ × Act)) :
    sights endpoint asked e run =
        sights endpoint (List.replicate (asked.count endpoint) endpoint) e' (alone endpoint asked run) ∧
      (e.after run).breaker endpoint = (e'.after (alone endpoint asked run)).breaker endpoint := by
  induction run generalizing asked e e' with
  | nil => exact ⟨rfl,mirrors.line.breaker⟩
  | cons m rest ih =>
    obtain ⟨now,a⟩ := m
    by_cases here : a.place? asked = some endpoint
    · obtain ⟨same,next⟩ := mirrors.here now here
      obtain ⟨seen,last⟩ := ih next
      obtain ⟨place,noted⟩ := renumberedPlace here
      rw [sights,alone,if_pos here,if_pos here,sights,if_pos place,same,seen,noted]
      exact ⟨rfl,last⟩
    · obtain ⟨seen,last⟩ := ih (mirrors.elsewhere now here)
      rw [sights,alone,if_neg here,if_neg here,seen,notedElsewhere here]
      exact ⟨rfl,last⟩

theorem createMirrors (rule : BreakerRule τ) (meter : Option (Meter τ)) (service : Service τ)
    (endpoint : String) : Mirrors endpoint [] (create ⟨.create rule,meter⟩ service)
      (create ⟨.create rule,meter⟩ service) :=
  ⟨createFit rule meter service,⟨rfl,Iff.rfl⟩,rfl,rfl,rfl,nofun,nofun⟩

end Exchange

/-! Sweeps over all endpoints that are known. -/

inductive Stroke where
  | act (a : Act)
  | lookAll
  | resetAll
  deriving Repr

def Stroke.controls (known : List String) : Stroke → List Control
  | .act _ => []
  | .lookAll => known.map (.read · .whole)
  | .resetAll => known.map .reset

namespace Exchange

omit [Quantity τ] in
def known (e : Exchange τ) : List String := e.line.board.breakers.keys

def stroke (e : Exchange τ) (now : τ) : Stroke → Exchange τ
  | .act a => (e.act now a).2
  | .lookAll => (onLine (Line.describeAll now e.known) e).2
  | .resetAll => (onLine (Line.resetAll e.known) e).2

def strokes (e : Exchange τ) (run : List (τ × Stroke)) : Exchange τ := run.foldl (fun e m => e.stroke m.1 m.2) e

def performed (now : τ) : Exchange τ → List Control → List (τ × Act)
  | _, [] => []
  | e, c :: rest => (now, .control c) ::
    match (c.run now e.line).1 with
    | .ok () => performed now (e.act now (.control c)).2 rest
    | .error _ => []

def spell (e : Exchange τ) (now : τ) : Stroke → List (τ × Act)
  | .act a => [(now, a)]
  | s => performed now e (s.controls e.known)

def spelled : Exchange τ → List (τ × Stroke) → List (τ × Act)
  | _, [] => []
  | e, (now, s) :: rest => e.spell now s ++ spelled (e.stroke now s) rest

variable {now : τ} {e : Exchange τ}

theorem sweepPerformed {α : Type} {sweep : List String → Op (Line τ) α} {by' : String → Control}
    (start : ∀ l, (sweep [] l).2 = l)
    (onward : ∀ endpoint rest l, (sweep (endpoint :: rest) l).2 = match (by' endpoint).run now l with
      | (.ok (),l') => (sweep rest l').2
      | (.error _,l') => l') (endpoints : List String) (e : Exchange τ) :
    (onLine (sweep endpoints) e).2 = e.after (performed now e (endpoints.map by')) := by
  induction endpoints generalizing e with
  | nil =>
    have still : (onLine (sweep []) e).2 = { e with line := (sweep [] e.line).2 } := rfl
    rw [still,start]
    rfl
  | cons endpoint rest ih =>
    have went : (onLine (sweep (endpoint :: rest)) e).2 =
        { e with line := (sweep (endpoint :: rest) e.line).2 } := rfl
    have acted : (e.act now (.control (by' endpoint))).2 =
        { e with line := ((by' endpoint).run now e.line).2 } := rfl
    rw [went,onward,List.map_cons,performed,after,List.foldl_cons,acted]
    rcases (by' endpoint).run now e.line with ⟨f | u,l⟩
    · rfl
    · exact ih { e with line := l }

theorem strokeSpelled (e : Exchange τ) (now : τ) (s : Stroke) : e.stroke now s = e.after (e.spell now s) := by
  cases s with
  | act a => rfl
  | lookAll =>
    refine sweepPerformed (fun _ => rfl) (fun endpoint rest l => ?_) e.known e
    have looked : (Control.read endpoint .whole).run now l =
        (((Line.describe now endpoint) l).1.map fun _ => (),(Line.describe now endpoint l).2) := by
      rw [Control.run,Op.bind_apply]
      rcases Line.describe now endpoint l with ⟨f | b,l'⟩ <;> rfl
    rw [looked,Line.describeAll,Op.bind_apply]
    rcases Line.describe now endpoint l with ⟨f | b,l'⟩
    · rfl
    · dsimp only [Except.map]
      rw [Op.bind_apply]
      rcases Line.describeAll now rest l' with ⟨f | bs,l''⟩ <;> rfl
  | resetAll =>
    refine sweepPerformed (fun _ => rfl) (fun endpoint rest l => ?_) e.known e
    rw [Line.resetAll,Op.bind_apply]
    have ran : (Control.reset endpoint).run now l = Line.shift endpoint (·.reset) l := rfl
    rw [ran]
    rcases Line.shift endpoint (·.reset) l with ⟨f | u,l'⟩ <;> rfl

theorem strokesSpelled (e : Exchange τ) (run : List (τ × Stroke)) : e.strokes run = e.after (e.spelled run) := by
  induction run generalizing e with
  | nil => rfl
  | cons m rest ih =>
    rw [spelled,afterAppend,← strokeSpelled]
    exact ih _

theorem controlQuiet (c : Control) {l : Line τ} (quiet : l.Quiet) : (c.run now l).1 = .ok () := by
  cases c with
  | read endpoint r =>
    cases r with
    | phase =>
      obtain ⟨phase,l',looked,-⟩ := Line.phaseQuiet endpoint now quiet
      rw [Control.run,Op.bind_ok looked]
      rfl
    | failures => rfl
    | whole =>
      obtain ⟨phase,l',looked,-⟩ := Line.phaseQuiet endpoint now quiet
      have described : ∃ b l'', Line.describe now endpoint l = (.ok b,l'') := by
        rw [Line.describe,Op.bind_ok looked]
        exact ⟨_,_,rfl⟩
      obtain ⟨b,l'',described⟩ := described
      rw [Control.run,Op.bind_ok described]
      rfl
  | success endpoint =>
    obtain ⟨l',done,-⟩ := Line.successQuiet endpoint now quiet
    rw [Control.run,done]
  | failure endpoint =>
    obtain ⟨l',done,-⟩ := Line.shiftQuiet endpoint (·.fail now) quiet
    rw [Control.run,Line.failure,done]
  | forceOpen endpoint =>
    obtain ⟨l',done,-⟩ := Line.shiftQuiet endpoint (·.forceOpen now) quiet
    rw [Control.run,done]
  | reset endpoint =>
    obtain ⟨l',done,-⟩ := Line.shiftQuiet endpoint (·.reset) quiet
    rw [Control.run,done]

theorem performedAll (quiet : e.line.Quiet) (controls : List Control) :
    performed now e controls = controls.map fun c => (now,.control c) := by
  induction controls generalizing e with
  | nil => rfl
  | cons c rest ih =>
    have still : (e.act now (.control c)).2.line.Quiet :=
      (Line.quietCounted (actCounted e now (.control c))).mpr quiet
    rw [performed,controlQuiet c quiet,List.map_cons]
    exact congrArg _ (ih still)

theorem afterQuiet (quiet : e.line.Quiet) (run : List (τ × Act)) : (e.after run).line.Quiet := by
  induction run generalizing e with
  | nil => exact quiet
  | cons m rest ih => exact ih ((Line.quietCounted (actCounted e m.1 m.2)).mpr quiet)

/-! Apart. -/

/-- A run is a run of acts, and what is seen of it at the endpoint is what is seen of the acts there when
they are all that happens. Where those who watch take what they are told, a sweep reaches every endpoint. -/
structure Apart (endpoint : String) (e : Exchange τ) (run : List (τ × Stroke)) : Prop where
  acts : e.strokes run = e.after (e.spelled run)
  sweeps : e.line.Quiet → ∀ now controls, performed now (e.strokes run) controls =
    controls.map fun c => (now,.control c)
  seen : sights endpoint [] e (e.spelled run) = sights endpoint [] e (alone endpoint [] (e.spelled run))
  breaker : (e.strokes run).breaker endpoint = (e.after (alone endpoint [] (e.spelled run))).breaker endpoint

theorem endpointsApart (rule : BreakerRule τ) (meter : Option (Meter τ)) (service : Service τ)
    (endpoint : String) (run : List (τ × Stroke)) :
    Apart endpoint (create ⟨.create rule,meter⟩ service) run := by
  obtain ⟨seen,last⟩ := (createMirrors rule meter service endpoint).runs
    ((create ⟨.create rule,meter⟩ service).spelled run)
  refine ⟨strokesSpelled _ run,fun quiet now controls => ?_,seen,?_⟩
  · rw [strokesSpelled]
    exact performedAll (afterQuiet quiet _) controls
  · rw [strokesSpelled]
    exact last

end Exchange

end ReadThrough.Rehearsal
