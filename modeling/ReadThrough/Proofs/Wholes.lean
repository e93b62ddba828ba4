import ReadThrough.Proofs.Doubling
import ReadThrough.Proofs.Ordered

/-! Whole numbers as doubles. What fifty-three bits hold is not rounded, and is found again in the double. -/
namespace ReadThrough

namespace Decimal
open Float.Model Float.Model.UnpackedFloat

section
variable {b : BitVec Format.binary64.numBits} (ends : b.toNat / 2 ^ 52 % 2048 ≠ 2047)
include ends

theorem exponentEnds : unpackExponent b ≠ -1#_ := by
  intro last
  have same := congrArg BitVec.toNat last
  rw [exponentBits] at same
  exact ends same

theorem endsKept : pack Format.binary64 (unpack Format.binary64 b) = b := by
  have number : isNaNBits b = false := decide_eq_false fun bad => exponentEnds ends bad.1
  rw [pack_unpack,number]
  rfl

theorem endsFinite : (unpack Format.binary64 b).isInf = false := by
  unfold UnpackedFloat.unpack
  dsimp only
  rw [if_neg (exponentEnds ends)]
  split
  · split <;> rfl
  · rfl

end

theorem bitsKept {bits : UInt64} (ends : bits.toNat / 2 ^ 52 % 2048 ≠ 2047) : (Float.ofBits bits).toBits = bits :=
  congrArg UInt64.ofBitVec (endsKept ends)

theorem bitsFinite {bits : UInt64} (ends : bits.toNat / 2 ^ 52 % 2048 ≠ 2047) : (Float.ofBits bits).isInf = false := by
  change (unpack Format.binary64 (Float.ofBits bits).toBits.toBitVec).isInf = false
  rw [bitsKept ends]
  exact endsFinite ends

theorem roundWhole (n : Nat) : roundDiv n 1 = n := by simp [roundDiv,Nat.mod_one]

variable {n : Nat}

theorem mantissaFull (filled : n ≠ 0) (fits : n < 2 ^ 53) :
    n.log2 ≤ 52 ∧ 2 ^ 52 ≤ n * 2 ^ (52 - n.log2) ∧ n * 2 ^ (52 - n.log2) < 2 ^ 53 := by
  have few : n.log2 < 53 := (Nat.log2_lt filled).mpr fits
  have positive : 0 < n * 2 ^ (52 - n.log2) := Nat.mul_pos (Nat.pos_of_ne_zero filled) (Nat.two_pow_pos _)
  have log := logShift (Nat.pos_of_ne_zero filled) (52 - n.log2)
  have full : (n * 2 ^ (52 - n.log2)).log2 = 52 := by omega
  exact ⟨Nat.le_of_lt_succ few,(Nat.le_log2 positive.ne').mp full.ge,(Nat.log2_lt positive.ne').mp (by omega)⟩

def wholeBits (n : Nat) : Nat := (n.log2 + 1022) * 2 ^ 52 + n * 2 ^ (52 - n.log2)

theorem scaledPlaces (num den k : Nat) : scaled num den 2 k = (num * 2 ^ k,den) := by
  rw [scaled,if_neg (by omega)]
  rfl

theorem scaledDown (num den k : Nat) (some : k ≠ 0) : scaled num den 2 (-k) = (num,den * 2 ^ k) := by
  have places : (-(-(k : Int))).toNat = k := by omega
  rw [scaled,if_pos (by omega),places]
  rfl

theorem nearestWhole (filled : n ≠ 0) (fits : n < 2 ^ 53) :
    nearest n 1 = Float.ofBits (wholeBits n).toUInt64 := by
  obtain ⟨few,full,bounded⟩ := mantissaFull filled fits
  have one : ((Nat.log2 1 : Nat) : Int) = 0 := by decide
  -- the guess at the order is right, so that no bit is lost
  have reached : (scaled n 1 2 (-(n.log2 : Int))).2 ≤ (scaled n 1 2 (-(n.log2 : Int))).1 := by
    by_cases low : n.log2 = 0
    · have still : scaled n 1 2 0 = (n * 2 ^ 0,1) := scaledPlaces n 1 0
      rw [low,Int.natCast_zero,Int.neg_zero,still]
      simpa using Nat.one_le_iff_ne_zero.mpr filled
    · rw [scaledDown n 1 n.log2 low]
      simpa using Nat.log2_self_le filled
  have unit : max ((n.log2 : Int) - 52) (-1074) = n.log2 - 52 := by omega
  have exponent : -((n.log2 : Int) - 52) = (52 - n.log2 : Nat) := by omega
  have bits : ((n.log2 : Int) - 52 + 1074) * Binary.full + (n * 2 ^ (52 - n.log2) : Nat) = wholeBits n := by
    have shifted : (n.log2 : Int) - 52 + 1074 = (n.log2 + 1022 : Nat) := by omega
    rw [shifted]
    exact rfl
  unfold nearest
  rw [if_neg (by omega),one,Int.sub_zero]
  dsimp only
  rw [if_pos reached,unit,exponent,scaledPlaces,roundWhole,bits,if_neg (by unfold wholeBits; omega)]
  rfl

theorem bitsWhole (filled : n ≠ 0) (fits : n < 2 ^ 53) : (wholeBits n).toUInt64.toNat = wholeBits n ∧
    wholeBits n % 2 ^ 52 + 2 ^ 52 = n * 2 ^ (52 - n.log2) ∧ wholeBits n / 2 ^ 52 = n.log2 + 1023 := by
  obtain ⟨few,full,bounded⟩ := mantissaFull filled fits
  have small : wholeBits n < UInt64.size := by
    unfold wholeBits
    have size : UInt64.size = 2 ^ 64 := rfl
    omega
  exact ⟨UInt64.toNat_ofNat_of_lt small,by unfold wholeBits; omega,by unfold wholeBits; omega⟩

theorem wholeEnds (filled : n ≠ 0) (fits : n < 2 ^ 53) : (wholeBits n).toUInt64.toNat / 2 ^ 52 % 2048 ≠ 2047 := by
  obtain ⟨same,-,scale⟩ := bitsWhole filled fits
  have few := (mantissaFull filled fits).1
  rw [same,scale]
  omega

theorem nearestParts (filled : n ≠ 0) (fits : n < 2 ^ 53) :
    Binary.ofFloat? (nearest n 1) = some ⟨false,n * 2 ^ (52 - n.log2),n.log2 - 52⟩ := by
  obtain ⟨same,fraction,scale⟩ := bitsWhole filled fits
  have few := (mantissaFull filled fits).1
  rw [nearestWhole filled fits]
  unfold Binary.ofFloat?
  rw [bitsKept (wholeEnds filled fits),same,show Binary.full = 2 ^ 52 from rfl]
  dsimp only
  have sign : (wholeBits n / 0x8000000000000000 == 1) = false := by
    rw [beq_eq_false_iff_ne]
    omega
  rw [sign,fraction,scale,if_neg (by omega),if_neg (by omega)]
  exact congrArg some (Binary.mk.injEq .. ▸ ⟨rfl,rfl,by omega⟩)

theorem ofWholeIs (n : Nat) : ofWhole n = nearest n 1 := by simp [ofWhole,signed]

theorem wholeRational (n : Nat) (fits : n < 2 ^ 53) : Number.toRational (.real (ofWhole n)) = n := by
  by_cases zero : n = 0
  · subst zero
    decide +kernel
  · have few := (mantissaFull zero fits).1
    have quotient : Binary.quotient ⟨false,n * 2 ^ (52 - n.log2),n.log2 - 52⟩ =
        (n * 2 ^ (52 - n.log2),2 ^ (52 - n.log2)) := by
      unfold Binary.quotient
      dsimp only
      split
      · have places : (-((n.log2 : Int) - 52)).toNat = 52 - n.log2 := by omega
        rw [places]
        rfl
      · have top : n.log2 = 52 := by omega
        rw [top]
        exact Prod.ext (Nat.mul_one _) rfl
    have lessened : mkRat (n * (2 ^ (52 - n.log2) : Nat)) (1 * 2 ^ (52 - n.log2)) = mkRat n 1 :=
      Rat.mkRat_mul_right (Nat.two_pow_pos _).ne'
    rw [ofWholeIs,Number.toRational,nearestParts zero fits]
    dsimp only
    rw [quotient]
    simpa [Rat.mkRat_one] using lessened

end Decimal

theorem Value.wholeAmount {n : Nat} (fits : n < 2 ^ 53) : (Value.int n).amount = .ok (Decimal.ofWhole n) := by
  have finite : (Decimal.ofWhole n).isInf = false := by
    by_cases zero : n = 0
    · subst zero
      decide +kernel
    · rw [Decimal.ofWholeIs,Decimal.nearestWhole zero fits]
      exact Decimal.bitsFinite (Decimal.wholeEnds zero fits)
  simp [Value.amount,Value.number?,Number.toFloat?,finite]

end ReadThrough
