import ReadThrough.Proofs.Attempts
import ReadThrough.Proofs.Cooldown
import ReadThrough.Proofs.Positive

/-! How long retries rest, in exact amounts. A wait that was asked for is cut at the ceiling of the policy, but only
one that was read off a raw error is also kept from falling below zero. -/
namespace ReadThrough

/-! Doubles above zero, as exact amounts. -/

theorem Decimal.Binary.unsignedPlain {x : Float} {b : Decimal.Binary} (found : Decimal.Binary.ofFloat? x = some b)
    (unsigned : x.toBits.toNat / 2 ^ 63 = 0) : b.negative = false := by
  have plain : (x.toBits.toNat / 0x8000000000000000 == 1) = false := by
    rw [show (0x8000000000000000 : Nat) = 2 ^ 63 from rfl,unsigned]
    rfl
  unfold Decimal.Binary.ofFloat? at found
  dsimp only at found
  rw [plain] at found
  split at found
  · cases found
  · split at found <;> cases found <;> rfl

namespace Number

theorem aboveRational {x : Float} (above : 0 < x) : 0 ≤ (Number.real x).toRational := by
  have positive : Decimal.Above x.toModel.unpack :=
    Decimal.aboveIs (of_decide_eq_true (p := (Float.ofBits 0).toModel < x.toModel) above)
  unfold toRational
  dsimp only
  split
  · exact le_rfl
  · rename_i b found
    rw [Decimal.Binary.unsignedPlain found (Decimal.aboveParts positive).1]
    exact Rat.mkRat_nonneg (Int.natCast_nonneg _) _

theorem zeroRational : (Number.real 0).toRational = 0 := by decide +kernel

theorem flooredRational (x : Float) : 0 ≤ (Number.real (if 0 < x then x else 0)).toRational := by
  split
  · exact aboveRational ‹_›
  · exact zeroRational.ge

end Number

/-! The waits that errors ask for. -/

theorem Fault.waitFloored {raw : Fault} {x : Float} (asks : raw.wait = .ok (some x)) :
    ∃ y : Float, x = if 0 < y then y else 0 := by
  unfold wait at asks
  dsimp only at asks
  split at asks
  · cases asks
  · split at asks
    · cases asks
      exact ⟨_,rfl⟩
    · cases asks
    · cases asks

theorem Backoff.hintUntyped {limit : Option Rat} {raw error : Fault} {hint : Option Rat}
    (untyped : raw.failure.isRemote = false) (classified : classify limit raw = .ok error)
    (reads : error.hint = .ok hint) : ∀ w ∈ hint, 0 ≤ w := by
  rcases limitClassifies limit raw with ⟨-,-,text,timeout⟩ | ⟨-,same⟩
  · cases timeout.symm.trans classified
    cases reads
    nofun
  · have known := Fault.classifies raw
    rw [← same,classified] at known
    cases known with
    | typed typed => cases typed.symm.trans untyped
    | other _ _ kind =>
      cases kind <;> cases reads <;> nofun
    | throttled _ _ wait asks =>
      cases wait with
      | none => cases reads; nofun
      | some x =>
        obtain ⟨y,rfl⟩ := Fault.waitFloored asks
        cases reads
        rintro w ⟨⟩
        exact Number.flooredRational y

namespace Backoff
variable {p : Backoff Rat} {most : Rat} {draw : Rat → Rat → Rat} {k : Nat} {error : Fault}

structure Admitted (p : Backoff Rat) (most : Rat) : Prop where
  base : 0 ≤ p.base
  grows : 1 ≤ p.factor
  jitter : 0 ≤ p.jitter
  ceiling : p.ceiling = some most
  most : 0 ≤ most

structure Draws (p : Backoff Rat) (draw : Rat → Rat → Rat) : Prop where
  least : 0 ≤ draw 0 p.jitter
  most : draw 0 p.jitter ≤ p.jitter

theorem Admitted.capped (admitted : p.Admitted most) (delay : Rat) : p.capped delay = min delay most := by
  rw [Backoff.capped,admitted.ceiling]
  exact Quantity.leastExact delay most

theorem Admitted.scheduled (admitted : p.Admitted most) (draws : p.Draws draw) :
    p.scheduled k draw = .ok (min (p.base * p.factor ^ k) most + draw 0 p.jitter) := by
  have scaled : Quantity.scale p.base p.factor k = .ok (p.base * p.factor ^ k) := by
    have grows : ¬ (p.factor = 0 ∧ (k : Int) < 0) := by omega
    exact (if_neg grows).trans (by rw [zpow_natCast])
  simp only [Backoff.scheduled,scaled,bind,Except.bind,admitted.capped]
  split
  · rfl
  · rename_i still
    have none : p.jitter = 0 := le_antisymm (not_lt.mp still) admitted.jitter
    have zero : draw 0 p.jitter = 0 := le_antisymm (none ▸ draws.most) draws.least
    rw [zero,add_zero]

def rest (p : Backoff Rat) (most : Rat) (draw : Rat → Rat → Rat) (k : Nat) : Option Rat → Rat
  | some w => min w most
  | none => min (p.base * p.factor ^ k) most + draw 0 p.jitter

theorem Admitted.waits (admitted : p.Admitted most) (draws : p.Draws draw) {hint : Option Rat}
    (reads : error.hint = .ok hint) : p.wait draw k error = .ok (p.rest most draw k hint) := by
  unfold wait
  rw [reads]
  cases hint with
  | some w => simp only [delay,admitted.capped,rest]; rfl
  | none => simp only [delay,admitted.scheduled draws,rest]; rfl

theorem Admitted.total (admitted : p.Admitted most) (draws : p.Draws draw) (hint : Option Rat) :
    p.rest most draw k hint ≤ most + p.jitter := by
  cases hint with
  | some w => exact (min_le_right w most).trans (le_add_of_nonneg_right admitted.jitter)
  | none => exact add_le_add (min_le_right _ most) draws.most

theorem Admitted.sign (admitted : p.Admitted most) (draws : p.Draws draw) (hint : Option Rat) :
    0 ≤ p.rest most draw k hint ↔ ∀ w ∈ hint, 0 ≤ w := by
  cases hint with
  | some w => simp [rest,admitted.most]
  | none =>
    have grown : 0 ≤ p.base * p.factor ^ k := mul_nonneg admitted.base (pow_nonneg (by linarith [admitted.grows]) k)
    simp [rest,add_nonneg (le_min grown admitted.most) draws.least]

theorem Admitted.grow (admitted : p.Admitted most) {k' : Nat} (later : k ≤ k') :
    min (p.base * p.factor ^ k) most ≤ min (p.base * p.factor ^ k') most :=
  min_le_min_right most (mul_le_mul_of_nonneg_left (pow_le_pow_right₀ admitted.grows later) admitted.base)

end Backoff

/-! The policies that validation admits. -/

theorem RetryRules.admits {v : Value} {r : RetryRules Rat} (valid : check v = .valid r) :
    r.backoff.Admitted r.maxDelay := by
  have reads := (Branch.retry.reads v r).mp valid
  have zero : (Quantity.zero : Rat) = 0 := by decide +kernel
  have one : (Quantity.ratio 1 1 : Rat) = 1 := by decide +kernel
  have floor {path : List String} {get : RetryRules Rat → Rat}
      (leaf : (⟨path,Coercion.amount [.notNegative],get⟩ : Leaf (RetryRules Rat)) ∈ RetryRules.leaves)
      (usually : Bound.notNegative.holds (get .usual) = true) : 0 ≤ get r := by
    have holds := Leaf.boundReads (reads _ leaf) usually
    simpa [Bound.notNegative,Bound.holds,zero] using holds
  have steep := Leaf.boundReads (reads ⟨["multiplier"],Coercion.amount [.atLeast (Quantity.ratio 1 1)],(·.multiplier)⟩
    (.tail _ (.tail _ (.head _)))) (by decide +kernel)
  have grows : 1 ≤ r.multiplier := by simpa [Bound.holds,one] using steep
  exact ⟨floor (.tail _ (.head _)) (by decide +kernel),grows,
    floor (.tail _ (.tail _ (.tail _ (.head _)))) (by decide +kernel),rfl,
    floor (.tail _ (.tail _ (.tail _ (.tail _ (.head _))))) (by decide +kernel)⟩

namespace Rehearsal.Retries

structure Retried (s : Retries Rat) (a : Attempt) (raw error : Fault) (hint : Option Rat) : Prop where
  came : a.error? = some raw
  classified : Backoff.classify s.service.limit raw = .ok error
  retryable : error.isRetryable
  more : (s.attempt : Int) < s.service.backoff.retries
  reads : error.hint = .ok hint

variable {s : Retries Rat} {a : Attempt} {raw error : Fault} {hint : Option Rat} {delay most : Rat}

theorem Retried.rests (retried : s.Retried a raw error hint) (admitted : s.service.backoff.Admitted most)
    (draws : s.service.backoff.Draws s.service.draw) (now : Rat) (task : Nat) :
    (s.advance now task a).1 = .resting (s.service.backoff.rest most s.service.draw s.attempt hint) := by
  have judged : ∀ raw', a.error? = some raw' → Backoff.classify s.service.limit raw' = .ok error := by
    intro raw' came
    cases retried.came.symm.trans came
    exact retried.classified
  have unsettled : a.settles s.service.limit = false := by
    rw [Attempt.settlesIff retried.came retried.classified,retried.retryable]
    rfl
  rw [advanceRests judged unsettled retried.more (admitted.waits draws retried.reads)]

theorem restsRetried {now : Rat} {task : Nat} (rests : (s.advance now task a).1 = .resting delay) :
    ∃ raw error hint, s.Retried a raw error hint := by
  have decided {raw : Fault} (came : a.error? = some raw)
      (again : ∃ error, s.service.backoff.decide s.service.limit s.service.draw s.attempt raw =
        .ok (.again error delay)) : ∃ raw error hint, s.Retried a raw error hint := by
    obtain ⟨error,again⟩ := again
    obtain ⟨classified,retryable,more,waits⟩ := Backoff.againIff.mp again
    unfold Backoff.wait at waits
    split at waits
    · cases waits
    · rename_i hint reads
      exact ⟨raw,error,hint,came,classified,retryable,more,reads⟩
  cases a with
  | returned | cancelled => cases rests
  | timedOut | raised =>
    refine decided rfl ?_
    simp only [advance] at rests
    split at rests
    · cases rests
    · cases rests
    · cases rests
      exact ⟨_,‹_›⟩

/-- A delay never exceeds what the policy allows, it is below zero exactly if a classified error has asked for that,
and what is scheduled does not get shorter. -/
theorem delaysBounded (admitted : s.service.backoff.Admitted most)
    (draws : s.service.backoff.Draws s.service.draw) (now : Rat) (task : Nat) (a : Attempt) :
    (∀ raw error hint, s.Retried a raw error hint →
      ∃ delay, (s.advance now task a).1 = .resting delay ∧ delay ≤ most + s.service.backoff.jitter ∧
        (hint ≠ none → delay ≤ most) ∧ (0 ≤ delay ↔ ¬ (raw.failure.isRemote ∧ ∃ w ∈ hint, w < 0))) ∧
    (∀ delay, (s.advance now task a).1 = .resting delay → ∃ raw error hint, s.Retried a raw error hint) ∧
    ∀ (s' : Retries Rat) now' task' a' raw error raw' error', s'.service.backoff = s.service.backoff →
      s.attempt ≤ s'.attempt → s.Retried a raw error none → s'.Retried a' raw' error' none →
      s.service.draw 0 s.service.backoff.jitter = 0 → s'.service.draw 0 s.service.backoff.jitter = 0 →
      ∃ delay delay', (s.advance now task a).1 = .resting delay ∧ (s'.advance now' task' a').1 = .resting delay' ∧
        delay ≤ delay' := by
  refine ⟨fun raw error hint retried => ?_,fun delay rests => restsRetried rests,?_⟩
  · refine ⟨_,retried.rests admitted draws now task,admitted.total draws hint,fun asked => ?_,?_⟩
    · cases hint with
      | some w => exact min_le_right w most
      | none => exact absurd rfl asked
    · rw [admitted.sign draws]
      cases typed : raw.failure.isRemote with
      | true => simp
      | false =>
        simp only [Bool.false_eq_true,false_and,not_false_eq_true,iff_true]
        exact Backoff.hintUntyped typed retried.classified retried.reads
  · intro s' now' task' a' raw error raw' error' same later retried retried' undrawn undrawn'
    have admitted' : s'.service.backoff.Admitted most := same ▸ admitted
    have draws' : s'.service.backoff.Draws s'.service.draw := by
      rw [same]
      exact ⟨undrawn'.ge,undrawn'.le.trans admitted.jitter⟩
    refine ⟨_,_,retried.rests admitted draws now task,retried'.rests admitted' draws' now' task',?_⟩
    simp only [Backoff.rest,same,undrawn,undrawn',add_zero]
    exact admitted.grow later

def usualRetries (attempt : Nat) : Retries Rat := ⟨⟨RetryRules.usual.backoff,none,fun low _ => low⟩,attempt,[]⟩

theorem usualAdmitted : (RetryRules.usual : RetryRules Rat).backoff.Admitted RetryRules.usual.maxDelay :=
  RetryRules.admits (v := .dict []) rfl

theorem usualDraws : (RetryRules.usual : RetryRules Rat).backoff.Draws fun low _ => low :=
  ⟨le_rfl,usualAdmitted.jitter⟩

theorem usualBounded : (usualRetries 0).Retried (.raised down) down down none ∧
    (usualRetries 1).Retried (.raised down) down down none ∧
    (∃ delay, ((usualRetries 0).advance 1000 0 (.raised down)).1 = .resting delay ∧ 0 ≤ delay) ∧
    ∃ delay delay', ((usualRetries 0).advance 1000 0 (.raised down)).1 = .resting delay ∧
      ((usualRetries 1).advance 1001 0 (.raised down)).1 = .resting delay' ∧ delay ≤ delay' := by
  have first : (usualRetries 0).Retried (.raised down) down down none := ⟨rfl,rfl,rfl,by decide,rfl⟩
  have second : (usualRetries 1).Retried (.raised down) down down none := ⟨rfl,rfl,rfl,by decide,rfl⟩
  obtain ⟨bounded,-,grow⟩ := @delaysBounded (usualRetries 0) _ usualAdmitted usualDraws 1000 0 (.raised down)
  obtain ⟨delay,told,-,-,sign⟩ := bounded _ _ _ first
  have above : 0 ≤ delay := sign.mpr fun ⟨_,_,asked,_⟩ => nomatch asked
  exact ⟨first,second,⟨delay,told,above⟩,grow _ 1001 0 _ _ _ _ _ rfl (Nat.zero_le 1) first second rfl rfl⟩

def owing : Fault := .mk (.remote .throttled "busy") { Traits.none with retryAfter := some (.int (-5)) } none

theorem owingRead : owing.hint = .ok (some (-5 : Rat)) := by
  have reads : Value.amount (.int (-5)) = .ok (Decimal.ofWhole (-5)) := rfl
  have five : Number.toRational (.real (Decimal.ofWhole (-5))) = -5 := by decide +kernel
  unfold Fault.hint
  rw [show owing.retryAfter? = some (.int (-5)) from rfl]
  simp only [reads]
  exact congrArg (fun w : Rat => Except.ok (some w)) five

theorem owingRests : RetryRules.check (.dict []) = .valid (RetryRules.usual : RetryRules Rat) ∧
    (RetryRules.usual : RetryRules Rat).backoff.Draws (fun low _ => low) ∧
    ((usualRetries 0).advance 1000 0 (.raised owing)).1 = .resting (-5) := by
  have retried : (usualRetries 0).Retried (.raised owing) owing owing (some (-5)) :=
    ⟨rfl,rfl,rfl,by decide,owingRead⟩
  have rests := retried.rests usualAdmitted usualDraws 1000 0
  have cut : min (-5) (RetryRules.usual : RetryRules Rat).maxDelay = -5 := by decide +kernel
  rw [Backoff.rest,cut] at rests
  exact ⟨rfl,usualDraws,rests⟩

end Rehearsal.Retries

end ReadThrough
