import ReadThrough.Proofs.Freshness

/-! Purges of versions. Entries and tasks without a version belong to all of them. After a purge no
entry of another version is left, and no task that may still write has one: a later task gets its
version from whoever asks for it, or takes it over from an entry. So nothing of another version comes
back, in whatever order the tasks under way end. -/
namespace ReadThrough
open Relation
variable {τ : Type}

def Accords (current version : Option String) : Prop := version = none ∨ version = current

theorem accordsIff {current version : Option String} :
    (version.isSome && version != current) = false ↔ Accords current version := by
  cases version <;> simp [Accords]

theorem Accords.orElse {current version other : Option String} (accords : Accords current version)
    (inherited : Accords current other) : Accords current (version.orElse fun _ => other) := by
  cases version with
  | none => exact inherited
  | some v => exact accords

namespace Coordinator

def Step.NamesOnly (current : Option String) : Step τ → Prop
  | .set _ _ o => Accords current o.version
  | .fetch _ _ r => Accords current r.version
  | .schedule _ _ _ _ version _ => Accords current version
  | _ => True

structure Current (current : Option String) (c : Coordinator τ) : Prop where
  entries : ∀ key e, c.store.entries.get? key = some e → Accords current e.version
  tasks : ∀ n t, c.tasks.get? n = some t → t.superseded = false → Accords current t.version

variable {c : Coordinator τ} {current : Option String}

theorem openedCurrent (pure : c.Current current) {s : Step τ} (names : s.NamesOnly current) {t : Task τ}
    (opens : c.Opens s t) : Accords current t.version := by
  cases s with
  | fetch caller raw r =>
    obtain ⟨key,-,asks⟩ := opens
    cases asks with
    | fetch tags => exact names
    | refresh tags stored => exact names.orElse (pure.entries _ _ stored)
  | schedule key supplier ttl tags version endpoint =>
    obtain ⟨tags,rfl⟩ := opens
    exact names
  | _ => exact opens.elim

variable [Quantity τ]

theorem storedCurrent (pure : c.Current current) {now : τ} {s : Step τ} (names : s.NamesOnly current)
    {key : String} {e : Entry τ} (stores : c.Stores now s (.written key e)) : Accords current e.version := by
  cases s with
  | set raw data o =>
    obtain ⟨tags,-,rfl⟩ := stores.entry
    exact names
  | advance n a =>
    obtain ⟨t,found,alive,data,-,-,written⟩ := stores
    obtain ⟨tags,-,rfl⟩ := written.entry
    exact pure.tasks n t found alive
  | clear => cases stores
  | _ => exact stores.elim

theorem stepCurrent (pure : c.Current current) (now : τ) {s : Step τ} (names : s.NamesOnly current) :
    (c.step now s).Current current := by
  have chain := c.stepTurns now s
  constructor
  · intro key e found
    rcases Store.chainEntries (chainStore chain) found with before | stores
    · exact pure.entries key e before
    · exact storedCurrent pure names stores
  · intro n t' found alive
    obtain ⟨t,before | opens,follows⟩ := chainOpened chain found
    · rw [follows.version]
      refine pure.tasks n t before ?_
      cases old : t.superseded with
      | false => rfl
      | true => exact (follows.2 old).symm.trans alive
    · rw [follows.version]
      exact openedCurrent pure names opens

theorem afterCurrent (pure : c.Current current) {run : List (τ × Step τ)}
    (names : ∀ m ∈ run, m.2.NamesOnly current) : (c.after run).Current current := by
  induction run generalizing c with
  | nil => exact pure
  | cons m rest ih =>
    exact ih (stepCurrent pure m.1 (names m List.mem_cons_self)) fun k mem =>
      names k (List.mem_cons_of_mem _ mem)

theorem mutatedVersionGet (distinct : c.store.entries.Distinct) (now : τ) (key : String) :
    (c.step now (.mutatedVersion current)).store.entries.get? key =
      (c.store.entries.get? key).filter fun e => !Store.isOutdated current e := by
  have detached := detachedStore c (fun _ t => writesOther current t) fun _ t => writesOther current t
  have reached : c.step now (.mutatedVersion current) = (inStore (Store.sweepVersion now current)
      ((c.detachFetches fun _ t => writesOther current t).detachRefreshes fun _ t =>
        writesOther current t).2).2 := rfl
  rw [reached,inStoreAfter,detached]
  exact Store.sweepVersionGet distinct now current key

theorem mutatedVersionCurrent (orderly : c.Orderly) (distinct : c.store.entries.Distinct) (now : τ) :
    (c.step now (.mutatedVersion current)).Current current := by
  constructor
  · intro key e found
    rw [mutatedVersionGet distinct] at found
    obtain ⟨-,fits⟩ := Option.filter_eq_some_iff.mp found
    exact accordsIff.mp ((Bool.not_eq_true' _).mp fits)
  · intro n t' found alive
    obtain ⟨t,before,follows⟩ := chainTasks (c.stepTurns now (.mutatedVersion current)) (fun _ h => h) found
    rw [follows.version]
    refine accordsIff.mp ?_
    cases outdated : writesOther current t with
    | false => exact outdated
    | true =>
      -- the purge has superseded it
      have superseded := @bothSuperseded τ c orderly (fun _ t => writesOther current t)
        (fun _ t => writesOther current t) n t t' before (fun _ => outdated)
        (fun _ t₁ _ follows₁ => by rw [writesOther,follows₁.version]; exact outdated) found
      cases superseded.symm.trans alive

theorem afterDistinct (distinct : c.store.entries.Distinct) (run : List (τ × Step τ)) :
    (c.after run).store.entries.Distinct := by
  induction run generalizing c with
  | nil => exact distinct
  | cons m rest ih => exact ih (Store.chainDistinct (chainStore (c.stepTurns m.1 m.2)) distinct)

/-- In every run of a coordinator over a new store, a purge keeps every entry without a version or with
the current one, and from then on, as long as nobody names another version, no entry has one. -/
theorem versionPurged {capacity : Int} {ttlFor : String → τ} {gate : Gate} {limiter : Limiter τ}
    {meter : Meter τ} {store : Store τ} (made : Store.create capacity ttlFor gate limiter meter = .ok store)
    (rule : BreakerRule τ) (service : Service τ) (toleratesStale refusesSensitive : Bool)
    (run : List (τ × Step τ)) (now : τ) (current : Option String) :
    let c := (create store rule service toleratesStale refusesSensitive).after run
    let purged := c.step now (.mutatedVersion current)
    (∀ key e, c.store.entries.get? key = some e → Accords current e.version →
      purged.store.entries.get? key = some e) ∧
    ∀ later, (∀ m ∈ later, m.2.NamesOnly current) → ∀ key e,
      (purged.after later).store.entries.get? key = some e → Accords current e.version := by
  intro c purged
  have orderly : c.Orderly :=
    afterOrderly (createOrderly store rule service toleratesStale refusesSensitive) run
  have empty : store.entries = .empty := by rw [Store.createOk made]
  have distinct : c.store.entries.Distinct :=
    afterDistinct (c := create store rule service toleratesStale refusesSensitive)
      (empty ▸ Assoc.emptyDistinct) run
  refine ⟨fun key e found fits => ?_,fun later names => ?_⟩
  · rw [mutatedVersionGet distinct,found,Option.filter_some]
    exact if_pos ((Bool.not_eq_true' _).mpr (accordsIff.mpr fits))
  · exact (afterCurrent (mutatedVersionCurrent orderly distinct now) names).entries

def renamed : Coordinator Number :=
  smallCache.after [
    (.whole 1000,.set (.str "old") (.int 1) ⟨none,.ok [],some "v1",none⟩),
    (.whole 1000,.set (.str "plain") (.int 2) (.none Number)),
    (.whole 1070,.fetch "a" (.str "old") userRequest),(.whole 1070,.begin 0)]

theorem renamedPurged :
    let later := [(.whole 1072,.advance 0 (.returned (.int 3)))]
    Store.create 10 smallStore.ttlFor smallStore.gate smallStore.limiter smallStore.meter = .ok smallStore ∧
    (∀ m ∈ later, m.2.NamesOnly (τ := Number) (some "v2")) ∧
    (renamed.tasks.get? 0).map (·.version) = some (some "v1") ∧
    ∀ key e, ((renamed.step (.whole 1071) (.mutatedVersion (some "v2"))).after later).store.entries.get? key =
      some e → Accords (some "v2") e.version := by
  intro later
  have names : ∀ m ∈ later, m.2.NamesOnly (τ := Number) (some "v2") := by simp [later,Step.NamesOnly]
  exact ⟨rfl,names,rfl,(versionPurged (rfl : Store.create 10 _ _ _ _ = .ok smallStore) _ _ _ _ _ _ _).2
    later names⟩

end Coordinator

end ReadThrough
