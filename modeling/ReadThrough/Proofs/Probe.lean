import ReadThrough.Proofs.Circuit

/-! Probes of a half-open circuit. The breaker marks a probe by one flag, which any call that ends
takes down. A watch remembers beside the breaker which calls under way were let through a half-open
circuit, and which calls have ended since the latest of them: the flag is up exactly as long as no
call has ended since. That decides when there is one probe, and when it alone moves the circuit. -/
namespace ReadThrough.Rehearsal

structure Watch (τ : Type) where
  exchange : Exchange τ
  probes : List Nat
  since : List Nat

namespace Watch
variable {τ : Type} [Quantity τ]

def create (rule : BreakerRule τ) (service : Service τ) : Watch τ :=
  ⟨.create ⟨.create rule, none⟩ service, [], []⟩

def breaker (endpoint : String) (w : Watch τ) : Breaker τ := w.exchange.breaker endpoint

def step (endpoint : String) (w : Watch τ) (m : τ × Move) : Watch τ :=
  let e := w.exchange.move endpoint m.1 m.2
  match m.2 with
  | .call _ _ =>
    if e.calls.has w.exchange.next ∧ (e.breaker endpoint).phase = .halfOpen
    then ⟨e, w.exchange.next :: w.probes, []⟩ else { w with exchange := e }
  | .finish n _ =>
    if w.exchange.calls.has n then ⟨e, w.probes.filter (· ≠ n), n :: w.since⟩ else w
  | .read _ => { w with exchange := e }

def Throughout (endpoint : String) (P : Watch τ → Prop) (w : Watch τ) : List (τ × Move) → Prop
  | [] => P w
  | m :: rest => P w ∧ Throughout endpoint P (w.step endpoint m) rest

def EachMove (endpoint : String) (Q : Watch τ → τ × Move → Prop) (w : Watch τ) :
    List (τ × Move) → Prop
  | [] => True
  | m :: rest => Q w m ∧ EachMove endpoint Q (w.step endpoint m) rest

def Single (w : Watch τ) : Prop := w.probes.length ≤ 1

/-- No call finds the circuit half open with a probe under way and a call ended since. -/
def Undoubled (endpoint : String) (w : Watch τ) (m : τ × Move) : Prop :=
  ∀ id supplier, m.2 = .call id supplier → w.probes ≠ [] → w.since ≠ [] →
    ((w.breaker endpoint).look m.1).2.phase ≠ .halfOpen

/-- No call but a probe ends in a half-open circuit, unless it is cancelled. -/
def Unstrayed (endpoint : String) (w : Watch τ) (m : τ × Move) : Prop :=
  ∀ n a, m.2 = .finish n a → w.exchange.calls.has n = true → n ∉ w.probes →
    (w.breaker endpoint).phase = .halfOpen → a.sign = .nothing

structure Guarded (endpoint : String) (w : Watch τ) : Prop where
  plain : w.exchange.Plain endpoint
  flag : (w.breaker endpoint).probing = true ↔ w.probes ≠ [] ∧ w.since = []
  halfOpen : (w.breaker endpoint).probing = true → (w.breaker endpoint).phase = .halfOpen
  underWay : ∀ n ∈ w.probes, w.exchange.calls.has n = true

omit [Quantity τ] in
theorem Single.only {w : Watch τ} {n : Nat} (single : w.Single) (mem : n ∈ w.probes) :
    w.probes = [n] := by
  obtain ⟨p,alone⟩ := List.length_eq_one_iff.mp (Nat.le_antisymm single (List.length_pos_of_mem mem))
  rw [alone] at mem ⊢
  rw [List.mem_singleton.mp mem]

theorem createGuarded (rule : BreakerRule τ) (service : Service τ) (endpoint : String) :
    (create rule service).Guarded endpoint := by
  have down : ((create rule service).breaker endpoint).probing = false := rfl
  have idle : ∀ n, (create rule service).exchange.calls.get? n = none := fun _ => rfl
  have unwatched : (create rule service).exchange.line.meter = none := rfl
  have quiet : (create rule service).exchange.line.Quiet := fun m attached => by
    rw [unwatched] at attached
    cases attached
  refine ⟨⟨quiet,?_,?_⟩,?_,?_,?_⟩
  · simp [idle]
  · simp [idle]
  · rw [down]
    simp [create]
  · simp [down]
  · simp [create]

theorem lookGuarded {endpoint : String} {now : τ} {w : Watch τ} {b : Breaker τ}
    (guarded : w.Guarded endpoint) (looked : ((w.breaker endpoint).look now).2 = b) :
    (b.probing = true ↔ w.probes ≠ [] ∧ w.since = []) ∧ (b.probing = true → b.phase = .halfOpen) := by
  subst looked
  obtain ⟨probing,-,phase⟩ := (w.breaker endpoint).lookKeeps now
  rw [probing]
  refine ⟨guarded.flag,fun up => ?_⟩
  have halfOpen := guarded.halfOpen up
  rw [phase (by simp [halfOpen]),halfOpen]

theorem callStep {endpoint : String} (now : τ) (id supplier : String) {w w' : Watch τ} {b : Breaker τ}
    (guarded : w.Guarded endpoint) (looked : ((w.breaker endpoint).look now).2 = b)
    (stepped : w.step endpoint (now,.call id supplier) = w') :
    w'.Guarded endpoint ∧ w'.breaker endpoint = (b.enter now).2 ∧
      (b.phase = .halfOpen ∧ (w.probes = [] ∨ w.since ≠ []) ∧
        w'.probes = w.exchange.next :: w.probes ∨
       ¬(b.phase = .halfOpen ∧ (w.probes = [] ∨ w.since ≠ [])) ∧ w'.probes = w.probes) := by
  obtain ⟨flag,halfOpen⟩ := lookGuarded guarded looked
  generalize moved : w.exchange.move endpoint now (.call id supplier) = e at stepped
  obtain ⟨plain,-,at',entered,others⟩ := Exchange.callMoves guarded.plain looked moved
  have underWay : ∀ n ∈ w.probes, e.calls.has n = true := by
    intro n mem
    have has := guarded.underWay n mem
    obtain ⟨c,found⟩ := Option.isSome_iff_exists.mp has
    have older := guarded.plain.fresh n c found
    rwa [Assoc.has,others n (by omega)]
  -- the flag is down only where no probe is out, or where a call has ended since the last one was let through
  have down : b.probing = false → w.probes = [] ∨ w.since ≠ [] := by
    intro lowered
    by_cases none : w.probes = []
    · exact .inl none
    · refine .inr fun fresh => ?_
      rw [flag.mpr ⟨none,fresh⟩] at lowered
      cases lowered
  simp only [step,moved] at stepped
  rcases b.enterState now with
    ⟨-,closed,same⟩ | ⟨admitted,half,lowered,raised⟩ | ⟨⟨wait,rejected⟩,busy,-,same⟩
  · rw [same] at at'
    rw [if_neg (by simp [at',closed])] at stepped
    subst stepped
    exact ⟨⟨plain,by simpa [breaker,at'] using flag,by simpa [breaker,at'] using halfOpen,underWay⟩,
      by rw [same]; exact at',.inr ⟨by simp [closed],rfl⟩⟩
  · rw [raised] at at'
    rw [if_pos ⟨entered.mpr admitted,by simp [at',half]⟩] at stepped
    subst stepped
    refine ⟨⟨plain,by simp [breaker,at'],by simp [breaker,at',half],?_⟩,by rw [raised]; exact at',
      .inl ⟨half,down lowered,rfl⟩⟩
    intro n mem
    rcases List.mem_cons.mp mem with rfl | older
    · exact entered.mpr admitted
    · exact underWay n older
  · rw [same] at at'
    rw [if_neg (by simp [entered,rejected])] at stepped
    subst stepped
    refine ⟨⟨plain,by simpa [breaker,at'] using flag,by simpa [breaker,at'] using halfOpen,underWay⟩,
      by rw [same]; exact at',.inr ⟨?_,rfl⟩⟩
    rintro ⟨half,free⟩
    have up := flag.mp (busy half)
    rcases free with none | ended
    · exact up.1 none
    · exact ended up.2

theorem finishStep {endpoint : String} (now : τ) {w w' : Watch τ} {n : Nat} (a : Attempt)
    (guarded : w.Guarded endpoint) (underWay : w.exchange.calls.has n = true)
    (stepped : w.step endpoint (now,.finish n a) = w') :
    w'.Guarded endpoint ∧ w'.breaker endpoint = (w.breaker endpoint).heed now a.sign ∧
      w'.probes = w.probes.filter (· ≠ n) := by
  obtain ⟨c,found⟩ := Option.isSome_iff_exists.mp underWay
  generalize moved : w.exchange.move endpoint now (.finish n a) = e at stepped
  obtain ⟨plain,at',calls,-⟩ := Exchange.finishMoves guarded.plain found moved
  simp only [step,moved,underWay,if_true] at stepped
  subst stepped
  refine ⟨⟨plain,by simp [breaker,at'],by simp [breaker,at'],?_⟩,at',rfl⟩
  intro m mem
  obtain ⟨older,other⟩ := List.mem_filter.mp mem
  have apart : n ≠ m := fun same => by simp [same] at other
  rw [Assoc.has,calls,Assoc.get?_erase,if_neg apart]
  exact guarded.underWay m older

theorem finishAbsent {endpoint : String} (now : τ) {w : Watch τ} {n : Nat} (a : Attempt)
    (gone : w.exchange.calls.has n = false) : w.step endpoint (now,.finish n a) = w := by
  simp [step,gone]

theorem readStep {endpoint : String} (now : τ) {w w' : Watch τ} (r : Reading)
    (guarded : w.Guarded endpoint) (stepped : w.step endpoint (now,.read r) = w') :
    w'.Guarded endpoint ∧ w'.probes = w.probes ∧
      (w'.breaker endpoint).cooldown = (w.breaker endpoint).cooldown ∧
      ((w.breaker endpoint).phase = .halfOpen → (w'.breaker endpoint).phase = .halfOpen) := by
  generalize moved : w.exchange.move endpoint now (.read r) = e at stepped
  obtain ⟨plain,calls,-,probing,cooldown,phase⟩ := Exchange.readMoves guarded.plain moved
  simp only [step,moved] at stepped
  subst stepped
  have flag : (e.breaker endpoint).probing = (w.breaker endpoint).probing := probing
  have stays : (w.breaker endpoint).phase = .halfOpen → (e.breaker endpoint).phase = .halfOpen :=
    fun half => (phase (by simp [show (w.exchange.breaker endpoint).phase = _ from half])).trans half
  refine ⟨⟨plain,?_,fun up => stays (guarded.halfOpen (flag ▸ up)),?_⟩,rfl,cooldown,stays⟩
  · simpa [breaker,flag] using guarded.flag
  · simpa [calls] using guarded.underWay

theorem stepGuarded {endpoint : String} {w : Watch τ} (guarded : w.Guarded endpoint) (m : τ × Move) :
    (w.step endpoint m).Guarded endpoint := by
  obtain ⟨now,m⟩ := m
  cases m with
  | call id supplier => exact (callStep now id supplier guarded rfl rfl).1
  | finish n a =>
    cases underWay : w.exchange.calls.has n with
    | true => exact (finishStep now a guarded underWay rfl).1
    | false => exact (finishAbsent now a underWay).symm ▸ guarded
  | read r => exact (readStep now r guarded rfl).1

theorem singleStep {endpoint : String} {w : Watch τ} (guarded : w.Guarded endpoint)
    (single : w.Single) (m : τ × Move) :
    (w.step endpoint m).Single ↔ Undoubled endpoint w m := by
  obtain ⟨now,m⟩ := m
  cases m with
  | call id supplier =>
    obtain ⟨-,-,⟨half,free,probes⟩ | ⟨refused,probes⟩⟩ :=
      callStep now id supplier guarded rfl rfl
    · constructor
      · intro one id' supplier' _ some
        rw [Single,probes,List.length_cons] at one
        exact absurd (List.length_eq_zero_iff.mp (by omega)) some
      · intro undoubled
        have none : w.probes = [] := by
          rcases free with none | ended
          · exact none
          · by_cases none : w.probes = []
            · exact none
            · exact absurd half (undoubled id supplier rfl none ended)
        simp [Single,probes,none]
    · refine ⟨fun _ id' supplier' _ _ ended half => refused ⟨half,.inr ended⟩,fun _ => ?_⟩
      rw [Single,probes]
      exact single
  | finish n a =>
    refine ⟨fun _ _ _ call => (by cases call),fun _ => ?_⟩
    cases underWay : w.exchange.calls.has n with
    | true =>
      have probes := (finishStep now a guarded underWay rfl).2.2
      rw [Single,probes]
      exact Nat.le_trans (List.length_filter_le _ _) single
    | false => exact (finishAbsent now a underWay).symm ▸ single
  | read r =>
    refine ⟨fun _ _ _ call => (by cases call),fun _ => ?_⟩
    have probes := (readStep now r guarded rfl).2.1
    rw [Single,probes]
    exact single

theorem throughoutHead {endpoint : String} {P : Watch τ → Prop} {w : Watch τ} {run : List (τ × Move)}
    (held : Throughout endpoint P w run) : P w := by
  cases run with
  | nil => exact held
  | cons m rest => exact held.1

theorem singleFrom {endpoint : String} {w : Watch τ} {run : List (τ × Move)}
    (guarded : w.Guarded endpoint) (single : w.Single) :
    Throughout endpoint Single w run ↔ EachMove endpoint (Undoubled endpoint) w run := by
  induction run generalizing w with
  | nil => exact ⟨fun _ => trivial,fun _ => single⟩
  | cons m rest ih =>
    have kept := stepGuarded guarded m
    constructor
    · intro held
      have next := throughoutHead held.2
      exact ⟨(singleStep guarded single m).mp next,(ih kept next).mp held.2⟩
    · intro held
      have next := (singleStep guarded single m).mpr held.1
      exact ⟨single,(ih kept next).mpr held.2⟩

/-- In every run of calls through one breaker there is at most one probe under way at every moment
exactly if no call finds the circuit half open after another call has ended under a probe. -/
theorem singleProbeIff (rule : BreakerRule τ) (service : Service τ) (endpoint : String)
    (run : List (τ × Move)) :
    Throughout endpoint Single (create rule service) run ↔
      EachMove endpoint (Undoubled endpoint) (create rule service) run :=
  singleFrom (createGuarded rule service endpoint) (Nat.zero_le 1)

def briskRule : BreakerRule Number := ⟨1, .whole 60, .whole 10, .whole 40⟩

def plainService : Service Number := ⟨⟨0, .whole 0, .whole 0, .whole 0, none⟩, none, fun low _ => low⟩

def dropped : Fault := .of (.foreign "ConnectionError" "down" ⟨false, true⟩)

/-- The circuit trips under an early call, a probe is let through, and the early call is cancelled. -/
theorem secondProbe : ¬ Throughout "rpc" Single (create briskRule plainService) [
    (.whole 1000,.call "early" "slow"),(.whole 1000,.call "trip" "bad"),
    (.whole 1000,.finish 1 (.raised dropped)),(.whole 1010,.call "probe" "slow"),
    (.whole 1010,.finish 0 .cancelled),(.whole 1010,.call "second" "slow")] := by
  intro held
  have last := held.2.2.2.2.2.2
  revert last
  simp only [Throughout,Single]
  decide

/-- What it means that only the probe decides: a half-open circuit moves, and a cooldown changes,
only where the one probe ends; its success closes the circuit; and any other call that ends can at
most trip a closed circuit. -/
def Decided (endpoint : String) (w : Watch τ) (m : τ × Move) : Prop :=
  let b := w.breaker endpoint
  let b' := (w.step endpoint m).breaker endpoint
  (b.phase = .halfOpen ∧ b'.phase ≠ .halfOpen ∨ b'.cooldown ≠ b.cooldown →
    ∃ p a, m.2 = .finish p a ∧ w.probes = [p] ∧
      (a.sign = .answered ∧ b'.phase = .closed ∨ a.sign = .failed ∧ b'.phase = .opened)) ∧
  (∀ p a, m.2 = .finish p a → p ∈ w.probes → a.sign = .answered → b'.phase = .closed) ∧
  ∀ n a, m.2 = .finish n a → n ∉ w.probes →
    b'.cooldown = b.cooldown ∧ (b'.phase = b.phase ∨ b.phase = .closed ∧ b'.phase = .opened)

theorem decidedUnstrayed {endpoint : String} {w : Watch τ} {m : τ × Move}
    (guarded : w.Guarded endpoint) (decided : Decided endpoint w m) : Unstrayed endpoint w m := by
  intro n a ended underWay other half
  obtain ⟨now,move⟩ := m
  cases ended
  obtain ⟨-,at',-⟩ := finishStep now a guarded underWay rfl
  obtain ⟨-,stays | ⟨closed,-⟩⟩ := decided.2.2 n a rfl other
  · obtain ⟨closes,reopens,-,-⟩ := (w.breaker endpoint).heedHalfOpen now half
    rw [at',half] at stays
    cases sign : a.sign with
    | answered => rw [sign,closes] at stays; cases stays
    | failed => rw [sign,reopens] at stays; cases stays
    | nothing => rfl
  · rw [half] at closed; cases closed

structure Settled (endpoint : String) (w : Watch τ) : Prop where
  guarded : w.Guarded endpoint
  single : w.Single
  halfOpen : w.probes ≠ [] → (w.breaker endpoint).phase = .halfOpen

theorem settledCall {endpoint : String} (now : τ) (id supplier : String) {w w' : Watch τ}
    (settled : w.Settled endpoint) (stepped : w.step endpoint (now,.call id supplier) = w') :
    (w'.breaker endpoint).cooldown = (w.breaker endpoint).cooldown ∧
      ((w.breaker endpoint).phase = .halfOpen → (w'.breaker endpoint).phase = .halfOpen) ∧
      (w'.probes ≠ [] → (w'.breaker endpoint).phase = .halfOpen) := by
  obtain ⟨-,at',taken⟩ := callStep now id supplier settled.guarded rfl stepped
  obtain ⟨-,cooldown,phase⟩ := (w.breaker endpoint).lookKeeps now
  obtain ⟨cooldown',phase'⟩ := ((w.breaker endpoint).look now).2.enterKeeps now
  rw [at',cooldown',phase']
  have stays : (w.breaker endpoint).phase = .halfOpen →
      ((w.breaker endpoint).look now).2.phase = .halfOpen :=
    fun half => (phase (by simp [half])).trans half
  refine ⟨cooldown,stays,fun some => ?_⟩
  rcases taken with ⟨half,-,-⟩ | ⟨-,probes⟩
  · exact half
  · exact stays (settled.halfOpen (probes ▸ some))

theorem finishAbsentDecided {endpoint : String} {now : τ} {w : Watch τ} {n : Nat} {a : Attempt}
    (guarded : w.Guarded endpoint) (gone : w.exchange.calls.has n = false) :
    Decided endpoint w (now,.finish n a) := by
  have other : n ∉ w.probes := fun mem => by simp [guarded.underWay n mem] at gone
  simp only [Decided,finishAbsent now a gone]
  refine ⟨fun moved => ?_,?_,?_⟩
  · rcases moved with ⟨half,left⟩ | changed
    · exact absurd half left
    · exact absurd rfl changed
  · rintro p a' ⟨⟩ mem
    exact absurd mem other
  · simp

theorem finishHalfOpenDecided {endpoint : String} {now : τ} {w : Watch τ} {n : Nat} {a : Attempt}
    (settled : w.Settled endpoint) (unstrayed : Unstrayed endpoint w (now,.finish n a))
    (underWay : w.exchange.calls.has n = true) (half : (w.breaker endpoint).phase = .halfOpen) :
    Decided endpoint w (now,.finish n a) := by
  obtain ⟨-,at',-⟩ := finishStep now a settled.guarded underWay rfl
  obtain ⟨closes,-,stays,cooldown⟩ := (w.breaker endpoint).heedHalfOpen now half
  simp only [Decided,at']
  by_cases mem : n ∈ w.probes
  · refine ⟨fun moved => ⟨n,a,rfl,settled.single.only mem,?_⟩,?_,?_⟩
    · exact Breaker.heedMoves half (moved.imp_left And.right)
    · rintro p a' ⟨⟩ - answered
      rw [answered]; exact closes
    · rintro p a' ⟨⟩ other
      exact absurd mem other
  · have nothing := unstrayed n a rfl underWay mem half
    rw [nothing]
    refine ⟨fun moved => ?_,?_,fun _ _ _ _ => ⟨cooldown,.inl (stays.trans half.symm)⟩⟩
    · rcases moved with ⟨-,left⟩ | changed
      · exact absurd stays left
      · exact absurd cooldown changed
    · rintro p a' ⟨⟩ probe
      exact absurd probe mem

theorem finishElsewhereDecided {endpoint : String} {now : τ} {w : Watch τ} {n : Nat} {a : Attempt}
    (settled : w.Settled endpoint) (underWay : w.exchange.calls.has n = true)
    (elsewhere : (w.breaker endpoint).phase ≠ .halfOpen) : Decided endpoint w (now,.finish n a) := by
  obtain ⟨-,at',-⟩ := finishStep now a settled.guarded underWay rfl
  obtain ⟨cooldown,phase⟩ := (w.breaker endpoint).heedElsewhere now a.sign elsewhere
  simp only [Decided,at']
  refine ⟨fun moved => ?_,fun p _ _ mem => ?_,fun _ _ _ _ => ⟨cooldown,phase⟩⟩
  · rcases moved with ⟨half,-⟩ | changed
    · exact absurd half elsewhere
    · exact absurd cooldown changed
  · exact absurd (settled.halfOpen (List.ne_nil_of_mem mem)) elsewhere

theorem finishProbes {endpoint : String} {now : τ} {w w' : Watch τ} {n : Nat} {a : Attempt}
    (settled : w.Settled endpoint) (unstrayed : Unstrayed endpoint w (now,.finish n a))
    (stepped : w.step endpoint (now,.finish n a) = w') (some : w'.probes ≠ []) :
    (w'.breaker endpoint).phase = .halfOpen := by
  cases underWay : w.exchange.calls.has n with
  | false =>
    rw [finishAbsent now a underWay] at stepped
    subst stepped
    exact settled.halfOpen some
  | true =>
    obtain ⟨-,at',probes⟩ := finishStep now a settled.guarded underWay stepped
    obtain ⟨p,mem⟩ := List.exists_mem_of_ne_nil _ (probes ▸ some)
    obtain ⟨probe,apart⟩ := List.mem_filter.mp mem
    have half := settled.halfOpen (List.ne_nil_of_mem probe)
    have other : n ∉ w.probes := by
      intro mine
      rw [settled.single.only mine,List.mem_singleton] at probe
      simp [probe] at apart
    rw [at',unstrayed n a rfl underWay other half]
    exact ((w.breaker endpoint).heedHalfOpen now half).2.2.1

theorem settledStep {endpoint : String} {w : Watch τ} {m : τ × Move} (settled : w.Settled endpoint)
    (unstrayed : Unstrayed endpoint w m) (undoubled : Undoubled endpoint w m) :
    (w.step endpoint m).Settled endpoint ∧ Decided endpoint w m := by
  have guarded := stepGuarded settled.guarded m
  have single := (singleStep settled.guarded settled.single m).mpr undoubled
  obtain ⟨now,m⟩ := m
  cases m with
  | call id supplier =>
    obtain ⟨cooldown,stays,probe⟩ := settledCall now id supplier settled rfl
    refine ⟨⟨guarded,single,probe⟩,?_,fun _ _ ended => (by cases ended),fun _ _ ended => (by cases ended)⟩
    rintro (⟨half,moved⟩ | changed)
    · exact absurd (stays half) moved
    · exact absurd cooldown changed
  | read r =>
    obtain ⟨-,probes,cooldown,stays⟩ := readStep now r settled.guarded rfl
    refine ⟨⟨guarded,single,fun some => stays (settled.halfOpen (probes ▸ some))⟩,?_,
      fun _ _ ended => (by cases ended),fun _ _ ended => (by cases ended)⟩
    rintro (⟨half,moved⟩ | changed)
    · exact absurd (stays half) moved
    · exact absurd cooldown changed
  | finish n a =>
    refine ⟨⟨guarded,single,finishProbes settled unstrayed rfl⟩,?_⟩
    cases underWay : w.exchange.calls.has n with
    | false => exact finishAbsentDecided settled.guarded underWay
    | true =>
      by_cases half : (w.breaker endpoint).phase = .halfOpen
      · exact finishHalfOpenDecided settled unstrayed underWay half
      · exact finishElsewhereDecided settled underWay half

theorem decidesFrom {endpoint : String} {w : Watch τ} {run : List (τ × Move)}
    (settled : w.Settled endpoint) :
    Throughout endpoint Single w run ∧ EachMove endpoint (Decided endpoint) w run ↔
      EachMove endpoint (Unstrayed endpoint) w run ∧ EachMove endpoint (Undoubled endpoint) w run := by
  induction run generalizing w with
  | nil => exact ⟨fun _ => ⟨trivial,trivial⟩,fun _ => ⟨settled.single,trivial⟩⟩
  | cons m rest ih =>
    constructor
    · rintro ⟨⟨single,singles⟩,decided,decisions⟩
      have unstrayed := decidedUnstrayed settled.guarded decided
      have undoubled := (singleStep settled.guarded single m).mp (throughoutHead singles)
      have later := (ih (settledStep settled unstrayed undoubled).1).mp ⟨singles,decisions⟩
      exact ⟨⟨unstrayed,later.1⟩,undoubled,later.2⟩
    · rintro ⟨⟨unstrayed,others⟩,undoubled,calls⟩
      obtain ⟨kept,decided⟩ := settledStep settled unstrayed undoubled
      have later := (ih kept).mpr ⟨others,calls⟩
      exact ⟨⟨settled.single,later.1⟩,decided,later.2⟩

/-- In every run of calls through one breaker, there is one probe at most and it alone decides the
half-open circuit exactly if no other call ends in a half-open circuit without being cancelled, and
no call finds the circuit half open after another call has ended under a probe. -/
theorem probeDecidesIff (rule : BreakerRule τ) (service : Service τ) (endpoint : String)
    (run : List (τ × Move)) :
    Throughout endpoint Single (create rule service) run ∧
        EachMove endpoint (Decided endpoint) (create rule service) run ↔
      EachMove endpoint (Unstrayed endpoint) (create rule service) run ∧
        EachMove endpoint (Undoubled endpoint) (create rule service) run :=
  decidesFrom ⟨createGuarded rule service endpoint,Nat.zero_le 1,fun some => absurd rfl some⟩

/-- An early call that fails late reopens the circuit under the probe, and the probe's success no
longer closes it. -/
theorem strayDecides : ¬ EachMove "rpc" (Decided "rpc") (create briskRule plainService) [
    (.whole 1000,.call "early" "slow"),(.whole 1000,.call "trip" "bad"),
    (.whole 1000,.finish 1 (.raised dropped)),(.whole 1010,.call "probe" "slow"),
    (.whole 1010,.finish 0 (.raised dropped)),(.whole 1010,.finish 2 (.returned (.int 1)))] := by
  intro held
  have closes := held.2.2.2.2.2.1.2.1 2 _ rfl
  revert closes
  decide

end Watch
end ReadThrough.Rehearsal
