import Mathlib.Tactic.Simproc.ExistsAndEq
import ReadThrough.Proofs.Variables

/-! The settings as a table of leaves, section by section: where each is named, how it is read, where
it is kept. A record of settings is read leaf by leaf, and a profile fills in what was not supplied. -/
namespace ReadThrough

namespace Checked
variable {α β : Type}

theorem thenSeq {f : Checked (α → β)} {x : Checked α} {P : β → Prop} :
    (∃ b, f <*> x = .valid b ∧ P b) ↔ ∃ g, f = .valid g ∧ ∃ a, x = .valid a ∧ P (g a) := by
  cases f <;> cases x <;> simp [Seq.seq,Checked.both]

theorem thenMap {f : α → β} {x : Checked α} {P : β → Prop} :
    (∃ b, f <$> x = .valid b ∧ P b) ↔ ∃ a, x = .valid a ∧ P (f a) := by
  cases x <;> simp [Functor.map,Checked.map]

theorem validIff {x : Checked α} {a : α} : x = .valid a ↔ ∃ b, x = .valid b ∧ b = a := by simp

end Checked

structure Leaf (σ : Type) where
  {Kind : Type}
  path : List String
  check : Value → Checked Kind
  get : σ → Kind

def Leaf.Reads {σ : Type} (leaf : Leaf σ) (said : Option Value) (below s : σ) : Prop :=
  match said with
  | some v => leaf.check v = .valid (leaf.get s)
  | none => leaf.get s = leaf.get below

variable {τ : Type} [Quantity τ]

theorem fieldReads {σ : Type} {v : Value} {name : String} {below s : σ} {leaf : Leaf σ} :
    leaf.Reads (v.field? name) below s ↔
      Coercion.field v name (leaf.get below) leaf.check = .valid (leaf.get s) := by
  rw [Coercion.field]
  cases v.field? name with
  | none => simp [Leaf.Reads,eq_comm]
  | some w => cases checked : leaf.check w <;> simp [Leaf.Reads,checked,Checked.under]

@[simp] theorem atName (name : String) (v : Value) : Value.at? [name] v = v.field? name := by
  rw [Value.at?]
  cases v.field? name <;> rfl

def SecurityRules.leaves : List (Leaf (SecurityRules τ)) := [
  ⟨["sensitive_patterns"], Coercion.texts, (·.patterns)⟩,
  ⟨["max_key_length"], Coercion.count [.above 0], (·.maxKeyLength)⟩,
  ⟨["max_value_bytes"], Coercion.count [.above 0], (·.maxValueBytes)⟩,
  ⟨["reject_sensitive"], Coercion.bool, (·.rejectSensitive)⟩,
  ⟨["rate_limit_per_key"], Coercion.count [.atLeast 0], (·.rateLimit)⟩,
  ⟨["rate_limit_window"], Coercion.amount [.positive], (·.rateWindow)⟩]

def RetryRules.leaves : List (Leaf (RetryRules τ)) := [
  ⟨["max_retries"], Coercion.count [.atLeast 0], (·.maxRetries)⟩,
  ⟨["base_delay"], Coercion.amount [.notNegative], (·.baseDelay)⟩,
  ⟨["multiplier"], Coercion.amount [.atLeast (Quantity.ratio 1 1)], (·.multiplier)⟩,
  ⟨["jitter_max"], Coercion.amount [.notNegative], (·.jitterMax)⟩,
  ⟨["max_delay"], Coercion.amount [.notNegative], (·.maxDelay)⟩]

def BreakerRules.leaves : List (Leaf (BreakerRules τ)) := [
  ⟨["failure_threshold"], Coercion.count [.above 0], (·.threshold)⟩,
  ⟨["failure_window"], Coercion.amount [.positive], (·.window)⟩,
  ⟨["base_cooldown"], Coercion.amount [.positive], (·.baseCooldown)⟩,
  ⟨["max_cooldown"], Coercion.amount [.positive], (·.maxCooldown)⟩,
  ⟨["call_timeout"], Coercion.optional (Coercion.amount [.positive]), (·.callTimeout)⟩]

def Thresholds.leaves : List (Leaf (Thresholds τ)) := [
  ⟨["min_hit_rate"], Coercion.amount [.atMost (Quantity.ratio 1 1), .notNegative], (·.minHitRate)⟩,
  ⟨["max_size_fraction"], Coercion.amount [.atMost (Quantity.ratio 1 1), .positive], (·.maxFill)⟩,
  ⟨["max_evictions_per_minute"], Coercion.amount [.notNegative], (·.maxEvictions)⟩,
  ⟨["max_invalidations_per_minute"], Coercion.amount [.notNegative], (·.maxInvalidations)⟩,
  ⟨["min_samples"], Coercion.count [.atLeast 0], (·.minSamples)⟩]

attribute [ext] SecurityRules RetryRules BreakerRules Thresholds Settings

structure Branch (τ : Type) [Quantity τ] where
  {Kind : Type}
  name : String
  check : Value → Checked Kind
  get : Settings τ → Kind
  usual : Kind
  ofUsual : get .usual = usual
  leaves : List (Leaf Kind)
  known : name ∈ Settings.names
  single : ∀ leaf ∈ leaves, ∃ name, leaf.path = [name]
  whole : ∀ a b : Kind, (∀ leaf ∈ leaves, leaf.get a = leaf.get b) → a = b
  reads : ∀ v a, check v = .valid a ↔ ∀ leaf ∈ leaves, leaf.Reads (v.at? leaf.path) usual a

namespace Branch

def security : Branch τ where
  name := "security_rules"
  check := SecurityRules.check
  get := (·.security)
  usual := .usual
  ofUsual := rfl
  leaves := SecurityRules.leaves
  known := by decide
  single := by simp [SecurityRules.leaves]
  whole a b same := SecurityRules.ext_iff.mpr (by simpa [SecurityRules.leaves] using same)
  reads v a := by
    rw [Checked.validIff, SecurityRules.check]
    simp only [Checked.thenSeq, Checked.thenMap, SecurityRules.ext_iff, existsAndEq, and_true,
      SecurityRules.leaves, List.forall_mem_cons, List.not_mem_nil, false_imp_iff, implies_true, atName,
      fieldReads]
    rfl

def retry : Branch τ where
  name := "retry"
  check := RetryRules.check
  get := (·.retry)
  usual := .usual
  ofUsual := rfl
  leaves := RetryRules.leaves
  known := by decide
  single := by simp [RetryRules.leaves]
  whole a b same := RetryRules.ext_iff.mpr (by simpa [RetryRules.leaves] using same)
  reads v a := by
    rw [Checked.validIff, RetryRules.check]
    simp only [Checked.thenSeq, Checked.thenMap, RetryRules.ext_iff, existsAndEq, and_true,
      RetryRules.leaves, List.forall_mem_cons, List.not_mem_nil, false_imp_iff, implies_true, atName,
      fieldReads]
    rfl

def breaker : Branch τ where
  name := "breaker"
  check := BreakerRules.check
  get := (·.breaker)
  usual := .usual
  ofUsual := rfl
  leaves := BreakerRules.leaves
  known := by decide
  single := by simp [BreakerRules.leaves]
  whole a b same := BreakerRules.ext_iff.mpr (by simpa [BreakerRules.leaves] using same)
  reads v a := by
    rw [Checked.validIff, BreakerRules.check]
    simp only [Checked.thenSeq, Checked.thenMap, BreakerRules.ext_iff, existsAndEq, and_true,
      BreakerRules.leaves, List.forall_mem_cons, List.not_mem_nil, false_imp_iff, implies_true, atName,
      fieldReads]
    rfl

def health : Branch τ where
  name := "health"
  check := Thresholds.check
  get := (·.health)
  usual := .usual
  ofUsual := rfl
  leaves := Thresholds.leaves
  known := by decide
  single := by simp [Thresholds.leaves]
  whole a b same := Thresholds.ext_iff.mpr (by simpa [Thresholds.leaves] using same)
  reads v a := by
    rw [Checked.validIff, Thresholds.check]
    simp only [Checked.thenSeq, Checked.thenMap, Thresholds.ext_iff, existsAndEq, and_true,
      Thresholds.leaves, List.forall_mem_cons, List.not_mem_nil, false_imp_iff, implies_true, atName,
      fieldReads]
    rfl

def all : List (Branch τ) := [security, retry, breaker, health]

def stem (b : Branch τ) : Leaf (Settings τ) := ⟨[b.name], Coercion.record b.check, b.get⟩

def inside (b : Branch τ) (leaf : Leaf b.Kind) : Leaf (Settings τ) :=
  ⟨b.name :: leaf.path, leaf.check, fun s => leaf.get (b.get s)⟩

end Branch

namespace Settings

def plainLeaves : List (Leaf (Settings τ)) := [
  ⟨["environment"], Environment.check, (·.environment)⟩,
  ⟨["default_ttl"], Coercion.amount [.positive], (·.defaultTtl)⟩,
  ⟨["max_size"], Coercion.count [.above 0], (·.maxSize)⟩,
  ⟨["stale_while_revalidate"], Coercion.bool, (·.toleratesStale)⟩,
  ⟨["per_key_ttl_overrides"], Coercion.amounts, (·.ttlOverrides)⟩,
  ⟨["log_level"], Coercion.text, (·.logLevel)⟩,
  ⟨["json_logs"], Coercion.bool, (·.jsonLogs)⟩,
  ⟨["diagnostics_host"], Coercion.text, (·.host)⟩,
  ⟨["diagnostics_port"], Coercion.int, (·.portNumber)⟩]

def tops : List (Leaf (Settings τ)) := plainLeaves ++ Branch.all.map Branch.stem

def leaves : List (Leaf (Settings τ)) :=
  plainLeaves ++ Branch.all.flatMap fun b => b.leaves.map b.inside

theorem topsWhole {a b : Settings τ} (same : ∀ leaf ∈ tops, leaf.get a = leaf.get b) : a = b := by
  simp [tops,plainLeaves,Branch.all,Branch.stem,Branch.security,Branch.retry,Branch.breaker,
    Branch.health] at same
  simp [Settings.ext_iff,same]

theorem checkIff {v : Value} {s : Settings τ} :
    check v = .valid s ↔
      (∀ leaf ∈ tops, leaf.Reads (v.at? leaf.path) usual s) ∧ strangers v = .valid () := by
  rw [Checked.validIff,check]
  simp only [Checked.thenSeq,Checked.thenMap,Settings.ext_iff,existsAndEq,and_true]
  simp only [tops,plainLeaves,Branch.all,List.cons_append,List.nil_append,List.map_cons,List.map_nil,
    List.forall_mem_cons,List.not_mem_nil,false_imp_iff,implies_true,Branch.stem,atName,fieldReads,
    and_true]
  constructor
  · rintro ⟨_,environment,ttl,size,stale,overrides,security,retry,breaker,health,level,json,
      host,port,known⟩
    exact ⟨⟨environment,ttl,size,stale,overrides,level,json,host,port,security,retry,breaker,
      health⟩,known⟩
  · rintro ⟨⟨environment,ttl,size,stale,overrides,level,json,host,port,security,retry,breaker,
      health⟩,known⟩
    exact ⟨(),environment,ttl,size,stale,overrides,security,retry,breaker,health,level,json,
      host,port,known⟩

/-! A profile under what was supplied. -/

def usualProfile : Profile τ :=
  let u : Settings τ := usual
  ⟨u.defaultTtl, u.maxSize, some u.ttlOverrides, some u.security, some u.retry, some u.breaker,
    some u.logLevel, some u.jsonLogs⟩

def Fills (leaf : Leaf (Settings τ)) (value : Profile τ → Option leaf.Kind) : Prop :=
  (∀ (s : Settings τ) p supplied, leaf.get (s.filled p supplied) =
    if supplied.contains (leaf.path.headD "") then leaf.get s else (value p).getD (leaf.get s)) ∧
  ((∀ p, value p = none) ∨ value usualProfile = some (leaf.get usual))

theorem fillsNothing {leaf : Leaf (Settings τ)}
    (same : ∀ (s : Settings τ) p supplied, leaf.get (s.filled p supplied) = leaf.get s) :
    Fills leaf fun _ => none :=
  ⟨fun s p supplied => (same s p supplied).trans (ite_self _).symm,.inl fun _ => rfl⟩

theorem profileFills : ∀ leaf ∈ (tops : List (Leaf (Settings τ))), ∃ value, Fills leaf value := by
  simp only [tops,plainLeaves,Branch.all,List.cons_append,List.nil_append,List.map_cons,List.map_nil,
    List.forall_mem_cons,List.not_mem_nil,false_imp_iff,implies_true,and_true]
  exact ⟨⟨_,fillsNothing fun _ _ _ => rfl⟩,
    ⟨fun p => some p.defaultTtl,fun _ _ _ => rfl,.inr rfl⟩,
    ⟨fun p => some p.maxSize,fun _ _ _ => rfl,.inr rfl⟩,
    ⟨_,fillsNothing fun _ _ _ => rfl⟩,
    ⟨(·.ttlOverrides),fun _ _ _ => rfl,.inr rfl⟩,
    ⟨(·.logLevel),fun _ _ _ => rfl,.inr rfl⟩,
    ⟨(·.jsonLogs),fun _ _ _ => rfl,.inr rfl⟩,
    ⟨_,fillsNothing fun _ _ _ => rfl⟩,
    ⟨_,fillsNothing fun _ _ _ => rfl⟩,
    ⟨(·.security),fun _ _ _ => rfl,.inr rfl⟩,
    ⟨(·.retry),fun _ _ _ => rfl,.inr rfl⟩,
    ⟨(·.breaker),fun _ _ _ => rfl,.inr rfl⟩,
    ⟨_,fillsNothing fun _ _ _ => rfl⟩⟩

section
variable {leaf : Leaf (Settings τ)} (top : leaf ∈ tops) (p : Profile τ)
include top

theorem filledAlike {a b : Settings τ} (same : leaf.get a = leaf.get b) :
    leaf.get (a.filled p []) = leaf.get (b.filled p []) := by
  obtain ⟨value,filled,-⟩ := profileFills leaf top
  rw [filled,filled,same]

theorem usualTakes {s : Settings τ} (same : leaf.get s = leaf.get (usual.filled p [])) :
    leaf.get (s.filled usualProfile []) = leaf.get usual := by
  obtain ⟨value,filled,nothing | sets⟩ := profileFills leaf top
  · simpa [filled,nothing] using same
  · simp [filled,sets]

end

theorem plainPath : ∀ leaf ∈ (plainLeaves : List (Leaf (Settings τ))),
    ∃ name ∈ names, leaf.path = [name] := by
  simp [plainLeaves,names]

theorem topPath : ∀ leaf ∈ (tops : List (Leaf (Settings τ))),
    ∃ name ∈ names, leaf.path = [name] := by
  intro leaf top
  rcases List.mem_append.mp top with plain | stem
  · exact plainPath leaf plain
  · obtain ⟨b,-,rfl⟩ := List.mem_map.mp stem
    exact ⟨b.name,b.known,rfl⟩

def Named (record : List (Value × Value)) : Prop := ∀ e ∈ record, ∃ name, e.1 = .str name

theorem suppliedIff {record : List (Value × Value)} (named : Named record) (name : String) :
    (record.map (fun e => e.1.display)).contains name = ((Value.dict record).field? name).isSome := by
  induction record with
  | nil => rfl
  | cons e rest ih =>
    obtain ⟨n,key⟩ := named e (List.mem_cons_self ..)
    rw [List.map_cons,List.contains_cons,ih fun e mem => named e (List.mem_cons_of_mem _ mem),
      Value.fieldCons,key]
    by_cases same : n = name
    · simp [Value.sameKey,Value.display,same]
    · simp [Value.sameKey,Value.display,same,Ne.symm same]

theorem strangersIff {record : List (Value × Value)} (named : Named record) :
    strangers (.dict record) = .valid () ↔
      ∀ name, ((Value.dict record).field? name).isSome → name ∈ names := by
  have known : (∀ name, ((Value.dict record).field? name).isSome → name ∈ names) ↔
      (record.map (fun e => e.1.display)).filter (fun name => !names.contains name) = [] := by
    simp only [← suppliedIff named,List.contains_iff_mem,List.filter_eq_nil_iff,Bool.not_eq_true',
      Bool.not_eq_false]
  rw [known,strangers]
  split
  · rename_i all
    exact iff_of_true rfl all
  · rename_i some
    exact iff_of_false (by simp) some

section
variable {record : List (Value × Value)} (named : Named record) {p : Profile τ} {s : Settings τ}
include named

theorem filledRecord {leaf : Leaf (Settings τ)} (top : leaf ∈ tops) :
    leaf.get (s.filled p (record.map (fun e => e.1.display))) =
      match (Value.dict record).at? leaf.path with
      | some _ => leaf.get s
      | none => leaf.get (s.filled p []) := by
  obtain ⟨name,-,path⟩ := topPath leaf top
  obtain ⟨value,filled,-⟩ := profileFills leaf top
  rw [filled,filled,path,List.headD,suppliedIff named,atName]
  cases (Value.dict record).field? name <;> rfl

theorem filledIff :
    (∃ c, check (.dict record) = .valid c ∧ c.filled p (record.map (fun e => e.1.display)) = s) ↔
      (∀ leaf ∈ tops, leaf.Reads ((Value.dict record).at? leaf.path) (usual.filled p []) s) ∧
        strangers (.dict record) = .valid () := by
  constructor
  · rintro ⟨c,checked,rfl⟩
    obtain ⟨reads,known⟩ := checkIff.mp checked
    refine ⟨fun leaf top => ?_,known⟩
    have read := reads leaf top
    have filled := filledRecord named (p := p) (s := c) top
    cases found : (Value.dict record).at? leaf.path with
    | some v =>
      rw [found] at read filled
      rw [Leaf.Reads,filled]
      exact read
    | none =>
      rw [found] at read filled
      rw [Leaf.Reads,filled]
      exact filledAlike top p read
  · rintro ⟨reads,known⟩
    -- what was not supplied is usual before the profile fills it in
    let c := s.filled usualProfile (record.map (fun e => e.1.display))
    have bare {leaf : Leaf (Settings τ)} (top : leaf ∈ tops)
        (absent : (Value.dict record).at? leaf.path = none) : leaf.get c = leaf.get usual := by
      have read := reads leaf top
      have filled := filledRecord named (p := usualProfile) (s := s) top
      rw [absent] at read filled
      exact filled.trans (usualTakes top p read)
    have kept {leaf : Leaf (Settings τ)} (top : leaf ∈ tops) {v : Value}
        (found : (Value.dict record).at? leaf.path = some v) : leaf.get c = leaf.get s := by
      have filled := filledRecord named (p := usualProfile) (s := s) top
      rwa [found] at filled
    refine ⟨c,checkIff.mpr ⟨fun leaf top => ?_,known⟩,topsWhole fun leaf top => ?_⟩
    · have read := reads leaf top
      cases found : (Value.dict record).at? leaf.path with
      | some v =>
        rw [found] at read
        rw [Leaf.Reads,kept top found]
        exact read
      | none => exact bare top found
    · have read := reads leaf top
      have filled := filledRecord named (p := p) (s := c) top
      cases found : (Value.dict record).at? leaf.path with
      | some v =>
        rw [found] at filled
        exact filled.trans (kept top found)
      | none =>
        rw [found] at read filled
        exact filled.trans ((filledAlike top p (bare top found)).trans read.symm)

end

end Settings

end ReadThrough
