import ReadThrough.Proofs.Positive

/-! Twice a positive amount is positive and no smaller, in the arithmetic of the numbers that run: the double of a
double is exact, but for what has no end. -/
namespace ReadThrough

/-! Doubles as they are packed. -/

namespace Decimal
open Float.Model Float.Model.UnpackedFloat

structure Canonical (mantissa : Nat) (exponent : Int) : Prop where
  filled : 0 < mantissa
  fits : mantissa < 2 ^ 53
  least : -1074 ≤ exponent
  used : 2 ^ 52 ≤ mantissa ∨ exponent = -1074

variable {m : Nat} {e : Int}

theorem Canonical.log (canonical : Canonical m e) : m.log2 = 52 ∨ m.log2 < 52 ∧ e = -1074 := by
  have few : m.log2 < 53 := (Nat.log2_lt canonical.filled.ne').mpr canonical.fits
  by_cases full : 2 ^ 52 ≤ m
  · have many : 52 ≤ m.log2 := (Nat.le_log2 canonical.filled.ne').mpr full
    omega
  · exact .inr ⟨(Nat.log2_lt canonical.filled.ne').mpr (Nat.lt_of_not_le full),canonical.used.resolve_left full⟩

theorem logShift (filled : 0 < m) (k : Nat) : (m * 2 ^ k).log2 = m.log2 + k := by
  induction k with
  | zero => simp
  | succ k ih =>
    have some : m * 2 ^ k ≠ 0 := (Nat.mul_pos filled (Nat.two_pow_pos k)).ne'
    rw [Nat.pow_succ',Nat.mul_left_comm,Nat.log2_two_mul some,ih,Nat.add_assoc]

theorem Canonical.target (canonical : Canonical m e) (k : Nat) :
    Format.binary64.targetExponent (totalExponent (m * 2 ^ k) (e - k)) = e := by
  have low : Format.binary64.minExponent = -1074 := rfl
  have bits : Format.binary64.mantissaBits = 53 := rfl
  have least := canonical.least
  unfold Format.targetExponent totalExponent
  rw [logShift canonical.filled,low,bits]
  rcases canonical.log with full | ⟨few,lowest⟩ <;> omega

theorem shiftWhole (m k : Nat) :
    (⟨m * 2 ^ k,false,false⟩ : ExtendedMantissa) >>> k = ⟨m,false,false⟩ := by
  induction k generalizing m with
  | zero => rw [pow_zero,Nat.mul_one]; rfl
  | succ k ih =>
    have first : (⟨m * 2 ^ (k + 1),false,false⟩ : ExtendedMantissa) >>> k = ⟨m * 2,false,false⟩ := by
      rw [Nat.pow_succ',← Nat.mul_assoc]
      exact ih (m * 2)
    change ExtendedMantissa.shiftRightOne ((⟨m * 2 ^ (k + 1),false,false⟩ : ExtendedMantissa) >>> k) = _
    rw [first]
    simp [ExtendedMantissa.shiftRightOne]

theorem Canonical.shift (canonical : Canonical m e) (k : Nat) :
    shiftToTargetExponent Format.binary64 (m * 2 ^ k) (e - k) .exact = (⟨m,false,false⟩,e) := by
  have places : (e - (e - k)).toNat = k := by omega
  unfold shiftToTargetExponent shiftToExponent
  dsimp only
  rw [canonical.target,places]
  exact Prod.ext (shiftWhole m k) (by dsimp only; omega)

theorem Canonical.round (canonical : Canonical m e) (s : Sign) (k : Nat) :
    roundWithAccuracy Format.binary64 s (m * 2 ^ k) (e - k) .exact = .finite s m e canonical.filled := by
  have again := canonical.shift 0
  rw [pow_zero,Nat.mul_one,Int.natCast_zero,Int.sub_zero] at again
  unfold roundWithAccuracy
  rw [canonical.shift]
  dsimp only
  rw [show ExtendedMantissa.roundedMantissa ⟨m,false,false⟩ = m from rfl,again]
  exact dif_neg canonical.filled.ne'

/-! Packed and unpacked. -/

theorem wholeMantissa (v : BitVec 52) : (1#1 ++ v).toNat = 2 ^ 52 + v.toNat := by
  rw [BitVec.toNat_append,← Nat.shiftLeft_add_eq_or_of_lt v.isLt]
  rfl

theorem unpackCanonical {b : BitVec Format.binary64.numBits} {s : Sign} {filled : 0 < m}
    (unpacked : unpack Format.binary64 b = .finite s m e filled) : Canonical m e := by
  have small : (unpackMantissa b).toNat < 2 ^ 52 := (unpackMantissa b).isLt
  unfold UnpackedFloat.unpack at unpacked
  dsimp only at unpacked
  split at unpacked
  · split at unpacked <;> cases unpacked
  · split at unpacked
    · rename_i low
      split at unpacked
      · cases unpacked
      · rw [UnpackedFloat.finite.injEq,low] at unpacked
        obtain ⟨-,rfl,rfl⟩ := unpacked
        exact ⟨filled,by omega,by decide,.inr rfl⟩
    · rename_i nonzero
      rw [UnpackedFloat.finite.injEq] at unpacked
      obtain ⟨-,rfl,rfl⟩ := unpacked
      have whole := wholeMantissa (unpackMantissa b)
      have some : (unpackExponent b).toNat ≠ 0 := fun zero => nonzero (BitVec.eq_of_toNat_eq zero)
      have bias : Format.binary64.exponentBias = 1023 := rfl
      rw [whole,bias]
      exact ⟨by omega,by omega,by omega,.inl (by omega)⟩

theorem signPacked (s : Sign) (x : BitVec 11) (v : BitVec 52) :
    unpackSign (packComponents Format.binary64 s x v) = s.toBitVec := by
  refine BitVec.eq_of_getLsbD_eq fun i few => ?_
  have only : i = 0 := by omega
  subst only
  have top : (unpackSign (packComponents Format.binary64 s x v)).getLsbD 0 = (s.toBitVec ++ x ++ v).getLsbD 63 := by
    simp [unpackSign,packComponents]
    rfl
  rw [top,BitVec.getLsbD_append,BitVec.getLsbD_append]
  rfl

theorem unpackFull {b : BitVec Format.binary64.numBits} (unsigned : unpackSign b = 0#1)
    (ends : unpackExponent b ≠ -1#_) (some : unpackExponent b ≠ 0#_) : ∃ filled, unpack Format.binary64 b =
      .finite .positive (1#1 ++ unpackMantissa b).toNat (((unpackExponent b).toNat : Int) - 1075) filled := by
  unfold UnpackedFloat.unpack
  dsimp only
  rw [if_neg ends,if_neg some,unsigned]
  exact ⟨by rw [wholeMantissa]; omega,rfl⟩

theorem unpackLow {b : BitVec Format.binary64.numBits} (unsigned : unpackSign b = 0#1)
    (low : unpackExponent b = 0#_) (some : unpackMantissa b ≠ 0#_) : ∃ filled,
    unpack Format.binary64 b = .finite .positive (unpackMantissa b).toNat (-1074) filled := by
  have ends : unpackExponent b ≠ -1#_ := by
    rw [low]
    decide
  unfold UnpackedFloat.unpack
  dsimp only
  rw [if_neg ends,if_pos low,dif_neg some,unsigned,low]
  exact ⟨Nat.pos_of_ne_zero fun zero => some (BitVec.eq_of_toNat_eq zero),rfl⟩

theorem Canonical.unpacks (canonical : Canonical m e) :
    unpack Format.binary64 (pack Format.binary64 (.finite .positive m e canonical.filled)) =
      if 971 < e then .infinity .positive else .finite .positive m e canonical.filled := by
  have bias : Format.binary64.exponentBias = 1023 := rfl
  have bits : Format.binary64.mantissaBits = 53 := rfl
  have least := canonical.least
  have fits := canonical.fits
  unfold UnpackedFloat.pack
  dsimp only
  rw [bias,bits]
  by_cases beyond : 971 < e
  · rw [if_pos beyond,if_pos (by omega)]
    rfl
  · rw [if_neg beyond,if_neg (by omega)]
    -- the first bit of a full mantissa is not packed; one that is not full has the least exponent
    split
    · rename_i full
      have used : 2 ^ 52 ≤ m := (Nat.le_log2 canonical.filled.ne').mp (by omega)
      have whole : (1#1 ++ BitVec.ofNat 52 m).toNat = m := by
        rw [wholeMantissa,BitVec.toNat_ofNat]
        omega
      have exponent : (BitVec.ofNat 11 (e + ↑1023 + ↑52).toNat).toNat = (e + 1075).toNat := by
        rw [BitVec.toNat_ofNat]
        omega
      obtain ⟨filled,unpacked⟩ := unpackFull (signPacked .positive (.ofNat 11 (e + ↑1023 + ↑52).toNat) (.ofNat 52 m))
        (by
          rw [unpackExponent_packComponents]
          intro ends
          have bad := exponent.symm.trans (congrArg BitVec.toNat ends)
          change (e + 1075).toNat = 2047 at bad
          omega)
        (by
          rw [unpackExponent_packComponents]
          intro zero
          have bad := exponent.symm.trans (congrArg BitVec.toNat zero)
          change (e + 1075).toNat = 0 at bad
          omega)
      refine unpacked.trans ?_
      rw [UnpackedFloat.finite.injEq,unpackMantissa_packComponents,unpackExponent_packComponents,exponent]
      exact ⟨rfl,whole,by omega⟩
    · rename_i unfilled
      obtain ⟨few,rfl⟩ : m.log2 < 52 ∧ e = -1074 := canonical.log.resolve_left (by omega)
      have same : (BitVec.ofNat 52 m).toNat = m := by
        have few : m < 2 ^ 52 := (Nat.log2_lt canonical.filled.ne').mp few
        rw [BitVec.toNat_ofNat]
        omega
      have unsigned := signPacked .positive 0#11 (.ofNat 52 m)
      obtain ⟨filled,unpacked⟩ := unpackLow unsigned (unpackExponent_packComponents ..) (by
        rw [unpackMantissa_packComponents]
        intro zero
        exact canonical.filled.ne' (same.symm.trans (congrArg BitVec.toNat zero)))
      refine unpacked.trans ?_
      rw [UnpackedFloat.finite.injEq,unpackMantissa_packComponents]
      exact ⟨rfl,same,rfl⟩

theorem belowNone (u : UnpackedFloat) : u.lt u = false := by
  rcases u with (_ | _) | _ | _ | ⟨_ | _,m,e,filled⟩
  case finite.negative | finite.positive => simp [UnpackedFloat.lt,UnpackedFloat.compare]
  all_goals rfl

/-! Twice a double above zero. -/

theorem Above.isAbove {u : UnpackedFloat} (above : Above u) : (UnpackedFloat.zero .positive).lt u = true := by
  rcases above with rfl | ⟨m,e,filled,rfl⟩ <;> rfl

theorem lessThan {m n : Nat} {d e : Int} (less : e < d ∨ e = d ∧ n < m) (filled : 0 < m) (filled' : 0 < n) :
    (UnpackedFloat.finite .positive m d filled).lt (.finite .positive n e filled') = false := by
  have above : (compare d e).then (compare m n) = .gt := by
    rw [Ordering.then_eq_gt,compare_gt_iff_gt,compare_eq_iff_eq,compare_gt_iff_gt]
    exact less.imp_right fun both => ⟨both.1.symm,both.2⟩
  unfold UnpackedFloat.lt UnpackedFloat.compare
  rw [above]
  rfl

theorem Canonical.above (canonical : Canonical m e) (filled : 0 < m) :
    Above (unpack Format.binary64 (pack Format.binary64 (.finite .positive m e filled))) := by
  rw [canonical.unpacks]
  split
  · exact .inl rfl
  · exact .inr ⟨m,e,filled,rfl⟩

theorem Canonical.beyond {n : Nat} {d : Int} (canonical : Canonical m e) (filled : 0 < m) (filled' : 0 < n)
    (less : d < e ∨ d = e ∧ n < m) :
    (unpack Format.binary64 (pack Format.binary64 (.finite .positive m e filled))).lt
      (.finite .positive n d filled') = false := by
  rw [canonical.unpacks]
  split
  · rfl
  · exact lessThan less filled filled'

theorem twiceAbove {b : BitVec Format.binary64.numBits} (above : Above (unpack Format.binary64 b)) :
    let twice := unpack Format.binary64 (pack Format.binary64
      (mul Format.binary64 (unpack Format.binary64 b) (.finite .positive (2 ^ 52) (-51) (by decide))))
    Above twice ∧ twice.lt (unpack Format.binary64 b) = false := by
  rcases above with endless | ⟨m,e,filled,given⟩
  · rw [endless]
    exact ⟨.inl rfl,rfl⟩
  · have canonical := unpackCanonical given
    have fits := canonical.fits
    rw [given]
    -- an exponent higher, or a mantissa not yet full doubled
    by_cases full : 2 ^ 52 ≤ m
    · have higher : Canonical m (e + 1) :=
        ⟨filled,canonical.fits,by have := canonical.least; omega,.inl full⟩
      have rounded := higher.round .positive 52
      rw [show e + 1 - (52 : Nat) = e + -51 by omega] at rounded
      have product : mul Format.binary64 (.finite .positive m e filled) (.finite .positive (2 ^ 52) (-51) (by decide)) =
        .finite .positive m (e + 1) filled := rounded
      rw [product]
      exact ⟨higher.above filled,higher.beyond filled filled (.inl (by omega))⟩
    · have lowest : e = -1074 := canonical.used.resolve_left full
      have doubled : Canonical (m * 2) e := ⟨by omega,by omega,canonical.least,.inr lowest⟩
      have rounded := doubled.round .positive 51
      rw [Nat.mul_assoc,show 2 * 2 ^ 51 = 2 ^ 52 from rfl,show e - (51 : Nat) = e + -51 by omega] at rounded
      have product : mul Format.binary64 (.finite .positive m e filled) (.finite .positive (2 ^ 52) (-51) (by decide)) =
        .finite .positive (m * 2) e doubled.filled := rounded
      rw [product]
      exact ⟨doubled.above _,doubled.beyond _ filled (.inr ⟨rfl,by omega⟩)⟩

end Decimal

namespace Number

theorem realDoubles {x : Float} (above : Float.ofBits 0 < x) :
    Float.ofBits 0 < x * Decimal.ofWhole 2 ∧ ¬ x * Decimal.ofWhole 2 < x := by
  have positive : Decimal.Above x.toModel.unpack :=
    Decimal.aboveIs (of_decide_eq_true (p := (Float.ofBits 0).toModel < x.toModel) above)
  have two : (Decimal.ofWhole 2).toModel.unpack =
    .finite .positive (2 ^ 52) (-51) (by decide) := rfl
  obtain ⟨twice,grown⟩ := Decimal.twiceAbove positive
  rw [← two] at twice grown
  change Decimal.Above (x * Decimal.ofWhole 2).toModel.unpack at twice
  change (x * Decimal.ofWhole 2).toModel.unpack.lt x.toModel.unpack = false at grown
  refine ⟨?_,fun less => ?_⟩
  · exact decide_eq_true (p := (Float.ofBits 0).toModel < (x * Decimal.ofWhole 2).toModel) (twice.isAbove)
  · exact Bool.false_ne_true (grown.symm.trans
      (of_decide_eq_true (p := (x * Decimal.ofWhole 2).toModel < x.toModel) less))

theorem wholeBelow {n : Int} (positive : 0 < n) : compareWhole n (Float.ofBits 0) = some .gt := by
  have zero : Decimal.Binary.ofFloat? (Float.ofBits 0) = some ⟨false,0,-1074⟩ := by decide +kernel
  rw [compareWhole,zero]
  dsimp only
  have den : 0 < (Decimal.Binary.quotient ⟨false,0,-1074⟩).2 := by decide +kernel
  rw [Decimal.emptyQuotient rfl,Option.some.injEq,compare_gt_iff_gt]
  exact Int.mul_pos positive (Int.natCast_pos.mpr den)

theorem doubles {a : Number} (above : Quantity.zero < a) :
    Quantity.zero < Quantity.double a ∧ ¬ Quantity.double a < a := by
  rw [zeroIs] at above ⊢
  cases a with
  | whole n =>
    have greater : compareWhole n (Float.ofBits 0) = some .gt := eq_of_beq above
    have positive := wholeAbove greater
    refine ⟨?_,fun less => ?_⟩
    · exact beq_iff_eq.mpr (wholeBelow (n := n * 2) (by omega))
    · have less : n * 2 < n := of_decide_eq_true less
      omega
  | real x =>
    obtain ⟨positive,grown⟩ := realDoubles (of_decide_eq_true above)
    exact ⟨decide_eq_true positive,fun less => grown (of_decide_eq_true less)⟩

theorem belowNone (a : Number) : ¬ a < a := by
  cases a with
  | whole n =>
    intro less
    exact lt_irrefl n (of_decide_eq_true less)
  | real x =>
    intro less
    have less : x < x := of_decide_eq_true less
    exact Bool.false_ne_true ((Decimal.belowNone _).symm.trans (of_decide_eq_true (p := x.toModel < x.toModel) less))

end Number
end ReadThrough
