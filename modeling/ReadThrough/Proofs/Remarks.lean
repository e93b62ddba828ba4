import ReadThrough.Proofs.Cooldown
import ReadThrough.Proofs.Rates

/-! Remarks on health, in exact amounts. Each measure is judged by itself: it is breached, near its threshold, or
not remarked on. What breaches looser thresholds breaches the stricter ones too. -/
namespace ReadThrough

namespace Thresholds
variable {t t' : Thresholds Rat} {r : Readings Rat} {k : Measure}

def Breached (t : Thresholds Rat) (r : Readings Rat) : Measure → Prop
  | .hitRate => t.minSamples ≤ r.lookups ∧ r.hitRate < t.minHitRate
  | .fill => r.capacity ≠ 0 ∧ t.maxFill < r.size / r.capacity
  | .evictions => t.maxEvictions < r.evictions
  | .invalidations => t.maxInvalidations < r.invalidations

def Near (t : Thresholds Rat) (r : Readings Rat) : Measure → Prop
  | .hitRate => t.minSamples ≤ r.lookups ∧ r.hitRate < min 1 (t.minHitRate + 1 / 10)
  | .fill => r.capacity ≠ 0 ∧ t.maxFill * (4 / 5) < r.size / r.capacity
  | .evictions => t.maxEvictions ≠ 0 ∧ t.maxEvictions * (4 / 5) < r.evictions
  | .invalidations => t.maxInvalidations ≠ 0 ∧ t.maxInvalidations * (4 / 5) < r.invalidations

inductive Grades (k : Measure) (breached near : Prop) : Option Remark → Prop where
  | breach (text : String) (past : breached) : Grades k breached near (some ⟨k,true,text⟩)
  | close (text : String) (within : ¬ breached) (close : near) : Grades k breached near (some ⟨k,false,text⟩)
  | quiet (within : ¬ breached) (far : ¬ near) : Grades k breached near none

def remark (t : Thresholds Rat) (r : Readings Rat) : Measure → Option Remark
  | .hitRate => t.judgeHitRate r
  | .fill => t.judgeFill r
  | .evictions => judgeRate .evictions "eviction" r.evictions t.maxEvictions
  | .invalidations => judgeRate .invalidations "invalidation" r.invalidations t.maxInvalidations

theorem judgeRemarks (t : Thresholds Rat) (r : Readings Rat) : t.judge r =
    [.hitRate,.fill,.evictions,.invalidations].flatMap fun k => (t.remark r k).toList := by
  simp [judge,remark]

theorem fourFifths (x : Rat) : x * Quantity.ratio 8 10 = x * (4 / 5) := by
  rw [show (Quantity.ratio 8 10 : Rat) = 4 / 5 by decide +kernel]

theorem rateGrades (k : Measure) (label : String) (rate ceiling : Rat) :
    Grades k (ceiling < rate) (ceiling ≠ 0 ∧ ceiling * (4 / 5) < rate) (judgeRate k label rate ceiling) := by
  have near : (!Quantity.isZero ceiling && decide (ceiling * Quantity.ratio 8 10 < rate)) = true ↔
      ceiling ≠ 0 ∧ ceiling * (4 / 5) < rate := by
    rw [fourFifths]
    simp [Quantity.isZero]
  unfold judgeRate
  dsimp only
  split
  · exact .breach _ ‹_›
  · split
    · exact .close _ ‹_› (near.mp ‹_›)
    · exact .quiet ‹_› fun close => ‹¬ _ = true› (near.mpr close)

theorem hitRateGrades (t : Thresholds Rat) (r : Readings Rat) :
    Grades .hitRate (t.Breached r .hitRate) (t.Near r .hitRate) (t.judgeHitRate r) := by
  have near : Quantity.least (Quantity.ratio 1 1) (t.minHitRate + Quantity.ratio 1 10) =
      min 1 (t.minHitRate + 1 / 10) := by
    rw [Quantity.leastExact,show (Quantity.ratio 1 1 : Rat) = 1 by decide +kernel,
      show (Quantity.ratio 1 10 : Rat) = 1 / 10 by decide +kernel]
  unfold judgeHitRate
  rw [near]
  split
  · exact .quiet (fun past => absurd ‹_› past.1.not_gt) fun close => absurd ‹_› close.1.not_gt
  · have judged : t.minSamples ≤ r.lookups := by omega
    split
    · exact .breach _ ⟨judged,‹_›⟩
    · split
      · exact .close _ (fun past => ‹¬ r.hitRate < t.minHitRate› past.2) ⟨judged,‹_›⟩
      · exact .quiet (fun past => ‹¬ r.hitRate < t.minHitRate› past.2) fun close => ‹¬ r.hitRate < min _ _› close.2

theorem fillGrades (t : Thresholds Rat) (r : Readings Rat) :
    Grades .fill (t.Breached r .fill) (t.Near r .fill) (t.judgeFill r) := by
  have fill : (Quantity.quotient (Quantity.ofInt r.size) (Quantity.ofInt r.capacity) : Rat) =
      r.size / r.capacity := rfl
  unfold judgeFill
  rw [fill,fourFifths]
  dsimp only
  split
  · exact .quiet (fun past => past.1 ‹_›) fun close => close.1 ‹_›
  · split
    · exact .breach _ ⟨‹_›,‹_›⟩
    · split
      · exact .close _ (fun past => ‹¬ t.maxFill < _› past.2) ⟨‹_›,‹_›⟩
      · exact .quiet (fun past => ‹¬ t.maxFill < _› past.2) fun close => ‹¬ t.maxFill * _ < _› close.2

theorem remarkGrades (t : Thresholds Rat) (r : Readings Rat) (k : Measure) :
    Grades k (t.Breached r k) (t.Near r k) (t.remark r k) := by
  cases k with
  | hitRate => exact hitRateGrades t r
  | fill => exact fillGrades t r
  | evictions | invalidations => exact rateGrades ..

/-! Remarks of several measures. -/

variable {x : Remark}

section
variable {breached near : Prop}

theorem Grades.measure {o : Option Remark} (grades : Grades k breached near o) (given : o = some x) :
    x.measure = k := by
  subst given
  cases grades <;> rfl

theorem Grades.issue {o : Option Remark} (grades : Grades k breached near o) :
    (∃ x, o = some x ∧ x.breach = true) ↔ breached := by
  cases grades with
  | breach text past => simpa using past
  | close text within close => simpa using within
  | quiet within far => simpa using within

theorem Grades.warning {o : Option Remark} (grades : Grades k breached near o) :
    (∃ x, o = some x ∧ x.breach = false) ↔ ¬ breached ∧ near := by
  cases grades with
  | breach text past => simp [past]
  | close text within close => simp [within,close]
  | quiet within far => simp [far]

end

theorem remarkListed : x ∈ t.judge r ↔ t.remark r x.measure = some x := by
  rw [judgeRemarks,List.mem_flatMap]
  constructor
  · rintro ⟨k,-,given⟩
    rw [Option.mem_toList] at given
    rwa [(remarkGrades t r k).measure given]
  · intro given
    refine ⟨x.measure,?_,Option.mem_toList.mpr given⟩
    cases x.measure <;> simp

theorem measuresOnce (t : Thresholds Rat) (r : Readings Rat) : ((t.judge r).map Remark.measure).Nodup := by
  have listed (ks : List Measure) : ((ks.flatMap fun k => (t.remark r k).toList).map Remark.measure).Sublist ks := by
    induction ks with
    | nil => exact .slnil
    | cons k rest ih =>
      rw [List.flatMap_cons,List.map_append]
      cases given : t.remark r k with
      | none => exact ih.cons k
      | some x => exact (remarkGrades t r k).measure given ▸ ih.cons_cons x.measure
  rw [judgeRemarks]
  exact (listed _).nodup (by decide)

theorem issueIff : (∃ x ∈ t.judge r, x.measure = k ∧ x.breach = true) ↔ t.Breached r k := by
  rw [← (remarkGrades t r k).issue]
  constructor
  · rintro ⟨x,listed,rfl,breach⟩
    exact ⟨x,remarkListed.mp listed,breach⟩
  · rintro ⟨x,given,breach⟩
    have measure := (remarkGrades t r k).measure given
    exact ⟨x,remarkListed.mpr (measure ▸ given),measure,breach⟩

theorem warningIff : (∃ x ∈ t.judge r, x.measure = k ∧ x.breach = false) ↔ ¬ t.Breached r k ∧ t.Near r k := by
  rw [← (remarkGrades t r k).warning]
  constructor
  · rintro ⟨x,listed,rfl,warns⟩
    exact ⟨x,remarkListed.mp listed,warns⟩
  · rintro ⟨x,given,warns⟩
    have measure := (remarkGrades t r k).measure given
    exact ⟨x,remarkListed.mpr (measure ▸ given),measure,warns⟩

theorem healthyIff : Remark.healthy (t.judge r) = true ↔ ∀ k, ¬ t.Breached r k := by
  simp only [Remark.healthy,List.all_eq_true,Bool.not_eq_true']
  constructor
  · intro unbreached k breached
    obtain ⟨x,listed,-,breach⟩ := issueIff.mpr breached
    cases breach.symm.trans (unbreached x listed)
  · intro fine x listed
    refine Bool.eq_false_iff.mpr fun breach => fine x.measure (issueIff.mp ⟨x,listed,rfl,breach⟩)

structure Looser (t t' : Thresholds Rat) : Prop where
  hitRate : t'.minHitRate ≤ t.minHitRate
  fill : t.maxFill ≤ t'.maxFill
  evictions : t.maxEvictions ≤ t'.maxEvictions
  invalidations : t.maxInvalidations ≤ t'.maxInvalidations
  samples : t.minSamples ≤ t'.minSamples

theorem Looser.breached (looser : t.Looser t') (past : t'.Breached r k) : t.Breached r k := by
  cases k with
  | hitRate => exact ⟨looser.samples.trans past.1,past.2.trans_le looser.hitRate⟩
  | fill => exact ⟨past.1,looser.fill.trans_lt past.2⟩
  | evictions => exact looser.evictions.trans_lt past
  | invalidations => exact looser.invalidations.trans_lt past

end Thresholds

namespace Meter
variable {m : Meter Rat} {rate : Loss → Rat} {t : Thresholds Rat}

def readings (m : Meter Rat) (rate : Loss → Rat) : Readings Rat :=
  ⟨m.lookups,m.hitRate,m.size,m.capacity,rate .eviction,rate .invalidation⟩

def share (m : Meter Rat) : Rat :=
  if m.hits + m.staleHits + m.misses = 0 then 0
  else (m.hits + m.staleHits) / (m.hits + m.staleHits + m.misses)

theorem hitRateShare (m : Meter Rat) : m.hitRate = m.share := by
  have zero : (Quantity.zero : Rat) = 0 := by decide +kernel
  unfold hitRate share lookups
  rw [zero]
  split
  · rfl
  · change ((m.hits + m.staleHits : Int) : Rat) / ((m.hits + m.staleHits + m.misses : Int) : Rat) = _
    push_cast
    rfl

structure Judged (m : Meter Rat) (rate : Loss → Rat) (t : Thresholds Rat) (rs : List Remark) : Prop where
  healthy : Remark.healthy rs = true ↔
    (m.lookups < t.minSamples ∨ t.minHitRate ≤ m.share) ∧ (m.capacity = 0 ∨ m.size / m.capacity ≤ t.maxFill) ∧
      rate .eviction ≤ t.maxEvictions ∧ rate .invalidation ≤ t.maxInvalidations
  once : (rs.map Remark.measure).Nodup
  issues : ∀ k, (∃ x ∈ rs, x.measure = k ∧ x.breach = true) ↔ t.Breached (m.readings rate) k
  warnings : ∀ k, (∃ x ∈ rs, x.measure = k ∧ x.breach = false) ↔
    ¬ t.Breached (m.readings rate) k ∧ t.Near (m.readings rate) k

theorem unbreachedIff : (∀ k, ¬ t.Breached (m.readings rate) k) ↔
    (m.lookups < t.minSamples ∨ t.minHitRate ≤ m.share) ∧ (m.capacity = 0 ∨ m.size / m.capacity ≤ t.maxFill) ∧
      rate .eviction ≤ t.maxEvictions ∧ rate .invalidation ≤ t.maxInvalidations := by
  have hitRate : ¬ t.Breached (m.readings rate) .hitRate ↔ m.lookups < t.minSamples ∨ t.minHitRate ≤ m.share := by
    rw [← hitRateShare]
    exact not_and_or.trans (or_congr not_le not_lt)
  have fill : ¬ t.Breached (m.readings rate) .fill ↔ m.capacity = 0 ∨ m.size / m.capacity ≤ t.maxFill :=
    not_and_or.trans (or_congr not_ne_iff not_lt)
  rw [← hitRate,← fill,← not_lt,← not_lt]
  exact ⟨fun fine => ⟨fine _,fine _,fine .evictions,fine .invalidations⟩,fun fine k => by
    cases k with
    | hitRate => exact fine.1
    | fill => exact fine.2.1
    | evictions => exact fine.2.2.1
    | invalidations => exact fine.2.2.2⟩

theorem judged (m : Meter Rat) (rate : Loss → Rat) (t : Thresholds Rat) :
    m.Judged rate t (t.judge (m.readings rate)) where
  healthy := Thresholds.healthyIff.trans unbreachedIff
  once := Thresholds.measuresOnce t _
  issues _ := Thresholds.issueIff
  warnings _ := Thresholds.warningIff

/-- Without a window there is no rate, and no verdict. Else the verdict goes by the rates that the meter answers, and
with looser thresholds it has no issue on a measure that had none. -/
theorem verdictsSound (m : Meter Rat) (now : Rat) :
    (m.window = 0 ∧ (∀ l : Loss, (l.perMinute now m).1 = .error (.of (.arithmetic .divisionByZero))) ∧
      ∀ given, (health now given m).1 = .error (.of (.arithmetic .divisionByZero))) ∨
    ∃ (rate : Loss → Rat) (verdict : Option (Thresholds Rat) → List Remark),
      (∀ l : Loss, (l.perMinute now m).1 = .ok (rate l)) ∧ (∀ given, (health now given m).1 = .ok (verdict given)) ∧
      (∀ given, m.Judged rate (given.getD m.thresholds) (verdict given)) ∧
      ∀ given given', (given.getD m.thresholds).Looser (given'.getD m.thresholds) →
        (Remark.healthy (verdict given) = true → Remark.healthy (verdict given') = true) ∧
        ∀ k, (∃ x ∈ verdict given', x.measure = k ∧ x.breach = true) →
          ∃ x ∈ verdict given, x.measure = k ∧ x.breach = true := by
  by_cases ticks : m.window = 0
  · have fails (l : Loss) : l.perMinute now m = (.error (.of (.arithmetic .divisionByZero)),l.aged now m) := by
      have zero : Quantity.isZero m.window = true := decide_eq_true ticks
      rw [l.asks,perMinute,zero]
      rfl
    exact .inl ⟨ticks,fun l => congrArg Prod.fst (fails l),fun given =>
      congrArg Prod.fst (Op.bind_error (fails .eviction))⟩
  · let rate (l : Loss) : Rat := total (m.expire now (l.samples m)) * (60 / m.window)
    refine .inr ⟨rate,fun given => (given.getD m.thresholds).judge (m.readings rate),fun l => ?_,fun given => ?_,
      fun given => judged m rate _,fun given given' looser => ⟨fun healthy => ?_,fun k issue => ?_⟩⟩
    · rw [rateAnswers ticks]
    · rw [healthAnswers ticks]
      rfl
    · rw [Thresholds.healthyIff] at healthy ⊢
      exact fun k past => healthy k (looser.breached past)
    · rw [Thresholds.issueIff] at issue ⊢
      exact looser.breached issue

end Meter
end ReadThrough
