import ReadThrough.Proofs.Scan
import ReadThrough.Proofs.Purge

/-! Sensitive data. The scan looks at the stored key and at the pieces of the strings inside a value. A
coordinator that refuses sensitive data holds nothing that the scan denies, in any run. What an escape
or the cleaning of a key hides, the scan does not see. -/
namespace ReadThrough
open Relation

namespace Pattern

def IsUsual (s : Screen) : Prop :=
  ∃ n, read? s.source Flags.none = some n ∧ n.Fits ∧ s.finds = n.finds

theorem screensUsual {sources : List String} (usual : sources ⊆ sensitive) : ∃ screens',
    screens sources = .ok screens' ∧ screens'.map (·.source) = sources ∧ ∀ s ∈ screens', IsUsual s := by
  induction sources with
  | nil => exact ⟨[],rfl,rfl,fun _ none => by cases none⟩
  | cons source rest ih =>
    obtain ⟨others,read,sources,each⟩ := ih fun s mem => usual (List.mem_cons_of_mem _ mem)
    obtain ⟨n,first,fits⟩ := sensitiveFits source (usual List.mem_cons_self)
    refine ⟨⟨source,n.finds⟩ :: others,?_,by rw [List.map_cons,sources],?_⟩
    · have compiled : compile source false = .ok n.finds := by
        have plain : { Flags.none with ignoreCase := false } = Flags.none := rfl
        rw [compile,plain,first]
      rw [screens,screen,compiled,read]
      rfl
    · intro s mem
      rcases List.mem_cons.mp mem with rfl | later
      · exact ⟨n,first,fits,rfl⟩
      · exact each s later

end Pattern

namespace Gate
variable {g : Gate}

theorem caughtNone (text : String) : g.caught text = none ↔ ∀ s ∈ g.screens, s.finds text = false := by
  simp [caught]

theorem judgeAllowed {key : String} {v : Value} : g.judge key v = .allowed ↔
    g.caught key = none ∧ ∃ text, v.written = .ok text ∧ g.caught text = none := by
  unfold judge
  cases g.caught key with
  | some s => simp
  | none =>
    cases v.written with
    | error why => simp
    | ok text => cases caught : g.caught text <;> simp [caught]

theorem enforceOk {key : String} {v : Value} : g.enforce key v = .ok () ↔ g.judge key v = .allowed := by
  unfold enforce
  cases g.judge key v <;> simp

end Gate

namespace Pattern

theorem usualWritten {s : Screen} (usual : IsUsual s) {v : Value} {text : String}
    (done : v.written = .ok text) : s.finds text = false ↔
      ∀ t ∈ v.texts, ∀ p ∈ Text.pieces [] t.toList, s.finds (String.ofList p) = false := by
  obtain ⟨n,-,fits,same⟩ := usual
  have seen : n.finds text = n.findsPiece v.texts := findsWritten fits (List.nil_subset bare) done
  have piece (p : List Char) : n.finds (String.ofList p) = n.findsIn p := by
    rw [findsText,String.toList_ofList]
  rw [same,seen]
  simp [Node.findsPiece,piece]

end Pattern

namespace Coordinator
variable {τ : Type}

def Judged (c : Coordinator τ) : Prop := ∀ key e, c.store.entries.get? key = some e →
  c.store.gate.judge key e.data = .allowed

theorem Turn.strict {permit : Permit τ} {c c' : Coordinator τ} (turned : c.Turn permit c') :
    c'.refusesSensitive = c.refusesSensitive := by
  cases turned with
  | aside turned =>
    obtain ⟨s,b,q,rfl⟩ := asideFlights (.single turned)
    rfl
  | fetchDetached key => unfold detachFetch; split <;> rfl
  | refreshDetached key => unfold detachRefresh; split <;> rfl
  | _ => rfl

theorem chainStrict {permit : Permit τ} {c c' : Coordinator τ} (chain : ReflTransGen (Turn permit) c c') :
    c'.refusesSensitive = c.refusesSensitive := by
  induction chain with
  | refl => rfl
  | tail _ turned ih => exact turned.strict.trans ih

variable [Quantity τ]

theorem setRefused {c : Coordinator τ} (strict : c.refusesSensitive = true) {now : τ} {raw data : Value}
    {o : Options τ} {key reason : String} (admitted : c.store.gate.admitKey raw = .ok key)
    (denied : c.store.gate.judge key data = .denied reason) :
    set now raw data o c = (.error (.of (.sensitive key reason)),c) := by
  have scanned : Op.liftFailure (c.store.gate.enforce key data) c =
      (.error (.of (.sensitive key reason)),c) := by
    rw [Gate.enforce,denied]
    rfl
  rw [set,Op.bind_ok (show Op.read c = (.ok c,c) from rfl)]
  dsimp only
  rw [if_pos strict,Op.bind_ok (admitKeyPasses admitted),Op.bind_error scanned]

theorem writesJudged {c : Coordinator τ} (keyed : c.Keyed) (strict : c.refusesSensitive = true) {now : τ}
    {s : Step τ} {key : String} {e : Entry τ} (new : c.store.entries.get? key ≠ some e)
    (found : (c.step now s).store.entries.get? key = some e) :
    c.store.gate.judge key e.data = .allowed := by
  have written := (Store.chainEntries (chainStore (c.stepTurns now s)) found).resolve_left new
  -- only a set and the end of a task write
  cases s with
  | set raw data o =>
    have chain : ReflTransGen (Turn ⟨fun _ => False,fun _ => False,fun _ => False,_⟩) c
        (c.step now (.set raw data o)) := asideTurns (setScreened c now raw data o)
    obtain ⟨scanned,wrote⟩ := (Store.chainEntries (chainStore chain) found).resolve_left new
    obtain ⟨tags,-,rfl⟩ := wrote.entry
    exact Gate.enforceOk.mp (scanned strict key wrote.admitted)
  | advance n a =>
    obtain ⟨t,task,-,data,-,scanned,wrote⟩ := written
    obtain ⟨tags,-,rfl⟩ := wrote.entry
    obtain ⟨text,same,-,clean,-⟩ := Key.sanitizeOk wrote.admitted
    cases same
    rw [keyed n t task] at clean
    rw [clean]
    exact Gate.enforceOk.mp (scanned strict)
  | clear => cases written
  | _ => exact written.elim

theorem afterJudged {c : Coordinator τ} (keyed : c.Keyed) (strict : c.refusesSensitive = true)
    (judged : c.Judged) {run : List (τ × Step τ)} (names : ∀ m ∈ run, m.2.Keyed) :
    (c.after run).Judged := by
  induction run generalizing c with
  | nil => exact judged
  | cons m rest ih =>
    have chain := c.stepTurns m.1 m.2
    refine ih (stepKeyed keyed m.1 (names m List.mem_cons_self)) ((chainStrict chain).trans strict)
      (fun key e found => ?_) fun k mem => names k (List.mem_cons_of_mem _ mem)
    rw [chainGate chain]
    by_cases old : c.store.entries.get? key = some e
    · exact judged key e old
    · exact writesJudged keyed strict old found

end Coordinator

/-- What the scan with the usual patterns comes to. A value passes under a key exactly if it has data
text and no pattern finds anything in the key or in a piece of a string inside the value. A coordinator
that refuses sensitive data does not set what does not pass, and holds no such thing in any run. -/
structure Gate.Scans (τ : Type) [Quantity τ] (g : Gate) : Prop where
  sources : g.screens.map (·.source) = Pattern.sensitive
  passes : ∀ key v, g.judge key v = .allowed ↔ (∀ s ∈ g.screens, s.finds key = false) ∧
    (∃ text, v.written = .ok text) ∧ ∀ s ∈ g.screens, ∀ t ∈ v.texts, ∀ p ∈ Text.pieces [] t.toList,
      s.finds (String.ofList p) = false
  refuses : ∀ (c : Coordinator τ) now raw data o key reason, c.store.gate = g →
    c.refusesSensitive = true → g.admitKey raw = .ok key → g.judge key data = .denied reason →
      Coordinator.set now raw data o c = (.error (.of (.sensitive key reason)),c)
  holds : ∀ (capacity : Int) (ttlFor : String → τ) limiter meter store rule service toleratesStale run,
    Store.create capacity ttlFor g limiter meter = .ok store → (∀ m ∈ run, m.2.Keyed) →
      ((Coordinator.create store rule service toleratesStale true).after run).Judged

variable {τ : Type}

theorem usualGate {rules : SecurityRules τ} (usual : rules.patterns = [] ∨
    rules.patterns = Pattern.sensitive) : ∃ g, rules.gate = .ok g ∧
      g.screens.map (·.source) = Pattern.sensitive ∧ ∀ s ∈ g.screens, Pattern.IsUsual s := by
  obtain ⟨screens,read,sources,each⟩ := Pattern.screensUsual (List.Subset.refl Pattern.sensitive)
  have chosen : (if rules.patterns.isEmpty then Pattern.sensitive else rules.patterns) =
      Pattern.sensitive := by rcases usual with none | same <;> simp [*]
  refine ⟨⟨screens,rules.maxKeyLength,rules.maxValueBytes⟩,?_,sources,each⟩
  rw [SecurityRules.gate,Pattern.screensOr,chosen,read]
  rfl

theorem usualPasses {g : Gate} (each : ∀ s ∈ g.screens, Pattern.IsUsual s) (key : String) (v : Value) :
    g.judge key v = .allowed ↔ (∀ s ∈ g.screens, s.finds key = false) ∧
      (∃ text, v.written = .ok text) ∧ ∀ s ∈ g.screens, ∀ t ∈ v.texts, ∀ p ∈ Text.pieces [] t.toList,
        s.finds (String.ofList p) = false := by
  rw [Gate.judgeAllowed,Gate.caughtNone]
  refine and_congr_right fun _ => ⟨?_,?_⟩
  · rintro ⟨text,done,clear⟩
    exact ⟨⟨text,done⟩,fun s mem =>
      (Pattern.usualWritten (each s mem) done).mp ((Gate.caughtNone text).mp clear s mem)⟩
  · rintro ⟨⟨text,done⟩,clear⟩
    exact ⟨text,done,(Gate.caughtNone text).mpr fun s mem =>
      (Pattern.usualWritten (each s mem) done).mpr (clear s mem)⟩

theorem createJudged {capacity : Int} {ttlFor : String → τ} {g : Gate} {limiter : Limiter τ}
    {meter : Meter τ} {store : Store τ} (made : Store.create capacity ttlFor g limiter meter = .ok store)
    (rule : BreakerRule τ) (service : Service τ) (toleratesStale refusesSensitive : Bool) :
    (Coordinator.create store rule service toleratesStale refusesSensitive).Judged := by
  obtain rfl := Store.createOk made
  intro key e found
  cases found

variable [Quantity τ]

theorem usualScans {rules : SecurityRules τ} (usual : rules.patterns = [] ∨
    rules.patterns = Pattern.sensitive) : ∃ g, rules.gate = .ok g ∧ g.Scans τ := by
  obtain ⟨g,made,sources,each⟩ := usualGate usual
  refine ⟨g,made,sources,usualPasses each,?_,?_⟩
  · rintro c now raw data o key reason rfl strict admitted denied
    exact Coordinator.setRefused strict admitted denied
  · intro capacity ttlFor limiter meter store rule service toleratesStale run fresh names
    have keyed : (Coordinator.create store rule service toleratesStale true).Keyed :=
      fun n t found => by cases found
    exact Coordinator.afterJudged keyed rfl (createJudged fresh rule service toleratesStale true) names

def numberRules : SecurityRules Number := SecurityRules.usual

theorem defaultScans : numberRules.patterns = Pattern.sensitive ∧
    ∃ g, numberRules.gate = .ok g ∧ g.Scans Number := ⟨rfl,usualScans (.inr rfl)⟩

def strictCache (g : Gate) : Coordinator Number :=
  .create { Coordinator.smallStore with gate := g } ⟨1,.whole 60,.whole 10,.whole 40⟩
    ⟨⟨0,.whole 0,.whole 0,.whole 0,none⟩,none,fun low _ => low⟩ true true

theorem usualMisses {s : Screen} (usual : Pattern.IsUsual s) (mem : s.source ∈ Pattern.sensitive)
    {text : String} (misses : ∀ source ∈ Pattern.sensitive,
      (Pattern.read? source Pattern.Flags.none).map (·.finds text) = some false) :
    s.finds text = false := by
  obtain ⟨n,read,-,same⟩ := usual
  have missed := misses s.source mem
  rw [read] at missed
  rw [same]
  exact Option.some.inj missed

/-- A line break before a token and a blank inside a key hide both from the scan. -/
theorem tokenPasses : ∃ g, numberRules.gate = .ok g ∧
    (g.caught "x\ntoken").isSome = true ∧ g.judge "k" (.str "x\ntoken") = .allowed ∧
    (g.caught "my token").isSome = true ∧ (Coordinator.set (.whole 0) (.str "my token") (.int 1)
      (.none Number) (strictCache g)).2.store.entries.has "my_token" = true := by
  have caught : (match numberRules.gate with
      | .error _ => false
      | .ok g => (g.caught "x\ntoken").isSome && (g.caught "my token").isSome &&
        (Coordinator.set (.whole 0) (.str "my token") (.int 1) (.none Number)
          (strictCache g)).2.store.entries.has "my_token") = true := by decide +kernel
  have misses : ∀ text ∈ ["k","x","ntoken"], ∀ source ∈ Pattern.sensitive,
      (Pattern.read? source Pattern.Flags.none).map (·.finds text) = some false := by decide +kernel
  have usual : numberRules.patterns = Pattern.sensitive := rfl
  obtain ⟨g,made,sources,each⟩ := usualGate (.inr usual)
  rw [made] at caught
  simp only [Bool.and_eq_true] at caught
  -- the patterns see the two pieces that the escape leaves, and find nothing in either
  have clear (text : String) (here : text ∈ ["k","x","ntoken"]) (s : Screen) (mem : s ∈ g.screens) :
      s.finds text = false :=
    usualMisses (each s mem) (sources ▸ List.mem_map_of_mem mem) (misses text here)
  refine ⟨g,made,caught.1.1,(usualPasses each "k" _).mpr ⟨clear "k" (by decide),⟨_,rfl⟩,?_⟩,caught.1.2,caught.2⟩
  intro s mem t inside p piece
  obtain rfl := List.mem_singleton.mp inside
  have cut : Text.pieces [] "x\ntoken".toList = [['x'],"ntoken".toList] := by decide
  rw [cut] at piece
  rcases List.mem_cons.mp piece with rfl | last
  · exact clear "x" (by decide) s mem
  · obtain rfl := List.mem_singleton.mp last
    rw [String.ofList_toList]
    exact clear "ntoken" (by decide) s mem

end ReadThrough
