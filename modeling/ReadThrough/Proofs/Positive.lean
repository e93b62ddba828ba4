import Mathlib
import ReadThrough.Proofs.Layers

/-! Settings that validation accepts have a positive default time to live, in the arithmetic of the numbers that
run: what is above zero as a double is not at most the whole number zero. -/
namespace ReadThrough

/-! The parts of a double, as numbers. -/

section
open Float.Model Float.Model.UnpackedFloat
variable (b : BitVec Format.binary64.numBits)

theorem Decimal.mantissaBits : (unpackMantissa b).toNat = b.toNat % 2 ^ 52 := by
  simp [unpackMantissa,BitVec.extractLsb]

theorem Decimal.exponentBits : (unpackExponent b).toNat = b.toNat / 2 ^ 52 % 2048 := by
  simp [unpackExponent,BitVec.extractLsb,Nat.shiftRight_eq_div_pow]

theorem Decimal.signBits : (unpackSign b).toNat = b.toNat / 2 ^ 63 % 2 := by
  simp [unpackSign,BitVec.extractLsb,Nat.shiftRight_eq_div_pow]

end

/-! Doubles above zero. -/

namespace Decimal
open Float.Model Float.Model.UnpackedFloat

def Above (u : UnpackedFloat) : Prop := u = .infinity .positive ∨ ∃ m e fits, u = .finite .positive m e fits

theorem aboveIs {u : UnpackedFloat} (above : (UnpackedFloat.zero .positive).lt u = true) : Above u := by
  rcases u with (_ | _) | _ | _ | ⟨_ | _,m,e,fits⟩
  case infinity.positive => exact .inl rfl
  case finite.positive => exact .inr ⟨m,e,fits,rfl⟩
  all_goals cases above

theorem Above.number {u : UnpackedFloat} (above : Above u) : u.isNaN = false := by
  rcases above with rfl | ⟨m,e,fits,rfl⟩ <;> rfl

theorem Above.upward {u : UnpackedFloat} (above : Above u) : u.lt (.zero .positive) = false := by
  rcases above with rfl | ⟨m,e,fits,rfl⟩ <;> rfl

theorem aboveParts {b : BitVec Format.binary64.numBits} (above : Above (unpack Format.binary64 b)) :
    b.toNat / 2 ^ 63 = 0 ∧ (b.toNat / 2 ^ 52 % 2048 = 0 → b.toNat % 2 ^ 52 ≠ 0) := by
  have unsigned : unpackSign b = 0#1 := by
    by_contra signed
    unfold Above UnpackedFloat.unpack Sign.ofBitVec at above
    simp only [signed,if_false] at above
    split at above
    · split at above <;> simp at above
    · split at above
      · split at above <;> simp at above
      · simp at above
  refine ⟨?_,fun low empty => ?_⟩
  · have sign := signBits b
    rw [unsigned] at sign
    have small := b.isLt
    change b.toNat < 2 ^ 64 at small
    change 0 = _ at sign
    omega
  · have exponent : unpackExponent b = 0#_ := BitVec.eq_of_toNat_eq ((exponentBits b).trans low)
    have mantissa : unpackMantissa b = 0#_ := BitVec.eq_of_toNat_eq ((mantissaBits b).trans empty)
    have zero : unpack Format.binary64 b = .zero .positive := by
      unfold UnpackedFloat.unpack
      simp only [exponent,mantissa,unsigned]
      rfl
    rw [zero] at above
    simp [Above] at above

theorem emptyQuotient {b : Binary} (empty : b.mantissa = 0) : b.quotient.1 = 0 := by
  unfold Binary.quotient
  split
  · exact empty
  · rw [empty,Nat.zero_mul]

theorem positiveQuotient {b : Binary} (filled : 0 < b.mantissa) (unsigned : b.negative = false) :
    compare ((0 : Int) * b.quotient.2) (if b.negative then -(b.quotient.1 : Int) else b.quotient.1) = .lt := by
  have positive : 0 < b.quotient.1 := by
    unfold Binary.quotient
    split
    · exact filled
    · exact Nat.mul_pos filled (Nat.pow_pos (by decide))
  rw [unsigned,compare_lt_iff_lt]
  simpa using positive

end Decimal

namespace Number

theorem compareAbove {x : Float} (above : Float.ofBits 0 < x) : compareWhole 0 x = some .lt := by
  have positive : Decimal.Above x.toModel.unpack :=
    Decimal.aboveIs (of_decide_eq_true (p := (Float.ofBits 0).toModel < x.toModel) above)
  obtain ⟨unsigned,filled⟩ := Decimal.aboveParts positive
  change x.toBits.toNat / 2 ^ 63 = 0 at unsigned
  change x.toBits.toNat / 2 ^ 52 % 2048 = 0 → x.toBits.toNat % 2 ^ 52 ≠ 0 at filled
  have number : x.isNaN = false := positive.number
  have upward : ¬ x < 0 := fun below => Bool.false_ne_true
    (positive.upward.symm.trans (of_decide_eq_true (p := x.toModel < (0 : Float).toModel) below))
  have plain : (x.toBits.toNat / 0x8000000000000000 == 1) = false := by
    rw [show (0x8000000000000000 : Nat) = 2 ^ 63 from rfl,unsigned]
    rfl
  unfold compareWhole Decimal.Binary.ofFloat?
  dsimp only
  rw [plain,show Decimal.Binary.full = 2 ^ 52 from rfl]
  split
  · rename_i b found
    split at found
    · cases found
    · split at found
      · rename_i low
        cases found
        exact congrArg some (Decimal.positiveQuotient (Nat.pos_of_ne_zero (filled low)) rfl)
      · cases found
        exact congrArg some (Decimal.positiveQuotient (by dsimp only; omega) rfl)
  · rw [if_neg (number ▸ Bool.false_ne_true),if_neg upward]

theorem zeroIs : (Quantity.zero : Number) = .real (Float.ofBits 0) := rfl

theorem wholeAbove {n : Int} (above : compareWhole n (Float.ofBits 0) = some .gt) : 0 < n := by
  have zero : Decimal.Binary.ofFloat? (Float.ofBits 0) = some ⟨false,0,-1074⟩ := by decide +kernel
  rw [compareWhole,zero] at above
  dsimp only at above
  rw [Decimal.emptyQuotient rfl,Option.some.injEq,compare_gt_iff_gt] at above
  exact pos_of_mul_pos_left above (Int.natCast_nonneg _)

theorem aboveZero {a : Number} (above : Quantity.zero < a) : ¬ a ≤ Quantity.ofInt 0 := by
  rw [zeroIs] at above
  cases a with
  | whole n =>
    have greater : compareWhole n (Float.ofBits 0) = some .gt := eq_of_beq above
    intro below
    exact absurd (wholeAbove greater) (not_lt.mpr (of_decide_eq_true below))
  | real x =>
    have less := compareAbove (of_decide_eq_true above)
    intro below
    change (compareWhole 0 x == some .gt || compareWhole 0 x == some .eq) = true at below
    rw [less] at below
    cases below

end Number

/-! Amounts that validation accepts. -/

theorem Coercion.amountHolds {τ : Type} [Quantity τ] {bounds : List (Bound τ)} {v : Value} {a : τ}
    (valid : amount bounds v = .valid a) : ∀ b ∈ bounds, b.holds a = true := by
  rw [amount,Checked.within.eq_def] at valid
  split at valid
  · cases valid
  · split at valid
    · cases valid
    · rename_i none
      cases valid
      simpa using none

theorem Leaf.boundReads {σ τ : Type} [Quantity τ] {said : Option Value} {path : List String} {get : σ → τ}
    {below r : σ} {b : Bound τ} (reads : Leaf.Reads ⟨path,Coercion.amount [b],get⟩ said below r)
    (usually : b.holds (get below) = true) : b.holds (get r) = true := by
  cases said with
  | some v => exact Coercion.amountHolds reads b (List.mem_singleton_self b)
  | none => exact (show get r = get below from reads).symm ▸ usually

namespace Settings
variable {τ : Type} [Quantity τ]

/-- Settings that have passed validation: they are read from a record, a profile fills them in, or a value is
assigned to one of them. -/
inductive Accepted : Settings τ → Prop where
  | checked {v : Value} {s : Settings τ} (valid : check v = .valid s) : Accepted s
  | filled {s : Settings τ} (accepted : Accepted s) (e : Environment) (supplied : List String) :
      Accepted (s.filled (profile e) supplied)
  | assigned {s s' : Settings τ} {name : String} {v : Value} (accepted : Accepted s)
      (done : s.assign name v = .ok s') : Accepted s'

theorem environmentAccepted {environment : Option Value} {vars : List Source.Variable}
    {forced : List (Value × Value)} {s : Settings τ} (read : forEnvironment environment vars forced = .ok s) :
    s.Accepted := by
  obtain ⟨_,-,_,-,c,checked,rfl⟩ := forEnvironmentOk.mp read
  exact .filled (.checked checked) c.environment _

theorem amountPositive {v : Value} {a : τ} (valid : Coercion.amount [.positive] v = .valid a) :
    Quantity.zero < a :=
  of_decide_eq_true (Coercion.amountHolds valid .positive (List.mem_singleton_self _))

theorem assignedLeaf {s s' : Settings τ} {name : String} {v : Value} (done : s.assign name v = .ok s') :
    ∀ leaf ∈ tops, leaf.get s' = leaf.get s ∨ leaf.check v = .valid (leaf.get s') := by
  have taken {α : Type} {x : Checked α} {name : String} {put : α → Settings τ}
      (done : ((x.under name).map put).toExcept = .ok s') : ∃ a, x = .valid a ∧ s' = put a := by
    cases x with
    | valid a =>
      cases done
      exact ⟨a,rfl,rfl⟩
    | invalid ds => cases done
  simp only [tops,plainLeaves,Branch.all,List.cons_append,List.nil_append,List.map_cons,List.map_nil,
    List.forall_mem_cons,List.not_mem_nil,false_imp_iff,implies_true,and_true]
  unfold assign at done
  dsimp only at done
  split at done
  case h_14 => cases done
  all_goals
    obtain ⟨a,valid,rfl⟩ := taken done
    refine ⟨?_,?_,?_,?_,?_,?_,?_,?_,?_,?_,?_,?_,?_⟩ <;> first | exact .inl rfl | exact .inr valid

theorem Accepted.always {s : Settings τ} (accepted : s.Accepted) {leaf : Leaf (Settings τ)} (top : leaf ∈ tops)
    {P : leaf.Kind → Prop} (checked : ∀ v a, leaf.check v = .valid a → P a) (usually : P (leaf.get usual))
    (filled : ∀ s e supplied, P (leaf.get s) → P (leaf.get (s.filled (profile e) supplied))) : P (leaf.get s) := by
  induction accepted with
  | @checked v s valid =>
    have read := (checkIff.mp valid).1 leaf top
    unfold Leaf.Reads at read
    split at read
    · exact checked _ _ read
    · exact read ▸ usually
  | filled accepted e supplied ih => exact filled _ e supplied ih
  | @assigned s s' name v accepted done ih =>
    rcases assignedLeaf done leaf top with same | valid
    · exact same ▸ ih
    · exact checked v _ valid

variable {s : Settings Number}

theorem Accepted.positive (accepted : s.Accepted) : Quantity.zero < s.defaultTtl := by
  have top : (⟨["default_ttl"],Coercion.amount [.positive],(·.defaultTtl)⟩ : Leaf (Settings Number)) ∈ tops := by
    simp [tops,plainLeaves]
  refine accepted.always top (P := fun a => Quantity.zero < a) (fun v a valid => amountPositive valid) ?_ ?_
  · decide
  · intro s e supplied positive
    change Quantity.zero < if supplied.contains "default_ttl" then s.defaultTtl else (profile e).defaultTtl
    split
    · exact positive
    · cases e <;> decide

theorem Accepted.lasting (accepted : s.Accepted) : ¬ s.defaultTtl ≤ Quantity.ofInt 0 :=
  Number.aboveZero accepted.positive

end Settings

end ReadThrough
