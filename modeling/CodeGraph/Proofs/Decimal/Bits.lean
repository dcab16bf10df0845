import CodeGraph.Decimal.Binary
import Mathlib

namespace CodeGraph.Decimal

open Float.Model (UnpackedFloat)
open Float.Model.UnpackedFloat

/-- The format of the floating point numbers. -/
abbrev format : Float.Model.Format := .binary64

theorem toNat_unpackExponent (b : BitVec format.numBits) :
    (unpackExponent b).toNat = b.toNat / 2 ^ 52 % 2 ^ 11 := by
  rw [unpackExponent_def, BitVec.extractLsb'_toNat, Nat.shiftRight_eq_div_pow]

theorem toNat_unpackMantissa (b : BitVec format.numBits) :
    (unpackMantissa b).toNat = b.toNat % 2 ^ 52 := by
  rw [unpackMantissa_def, BitVec.extractLsb'_toNat, Nat.shiftRight_zero]

theorem toNat_unpackSign (b : BitVec format.numBits) :
    (unpackSign b).toNat = b.toNat / 2 ^ 63 % 2 := by
  rw [unpackSign_def, BitVec.extractLsb'_toNat, Nat.shiftRight_eq_div_pow]
  rfl

theorem unpackExponent_eq_ones {b : BitVec format.numBits} :
    unpackExponent b = -BitVec.ofNat format.exponentBits 1 ↔ b.toNat / 2 ^ 52 % 2 ^ 11 = 2047 := by
  rw [← BitVec.toNat_inj, toNat_unpackExponent]
  rfl

theorem unpackMantissa_eq_zero {b : BitVec format.numBits} :
    unpackMantissa b = BitVec.ofNat format.mantissaBitsWithoutImplicit 0 ↔ b.toNat % 2 ^ 52 = 0 := by
  rw [← BitVec.toNat_inj, toNat_unpackMantissa]
  rfl

/-- Bits up to those of infinity stand for a number. -/
theorem valid_of_le {b : BitVec format.numBits} (bound : b.toNat % 2 ^ 63 ≤ infinityBits) :
    format.Valid b where
  eq_packedNaN ones some := by
    rw [unpackExponent_eq_ones] at ones
    rw [ne_eq, unpackMantissa_eq_zero] at some
    have value : infinityBits = 2047 * 2 ^ 52 := rfl
    omega

theorem toBits_ofBits {b : UInt64} (bound : b.toNat % 2 ^ 63 ≤ infinityBits) :
    (Float.ofBits b).toBits = b :=
  UInt64.toBitVec_inj.mp (pack_unpack_of_valid (valid_of_le bound))

/-- The bits below the sign. -/
def magnitudeBits (x : Float) : Nat :=
  x.toBits.toNat % signBit

theorem magnitudeBits_lt_of_isFinite {x : Float} (finite : x.isFinite = true) :
    magnitudeBits x < infinityBits := by
  have value : infinityBits = 2047 * 2 ^ 52 := rfl
  have limit : signBit = 2 ^ 63 := rfl
  have notOnes : @unpackExponent format x.toModel.toBits.toBitVec ≠ -BitVec.ofNat format.exponentBits 1 := by
    intro ones
    change (unpack format x.toModel.toBits.toBitVec).isFinite = true at finite
    unfold unpack at finite
    dsimp only at finite
    rw [if_pos ones] at finite
    split at finite <;> cases finite
  rw [ne_eq, unpackExponent_eq_ones] at notOnes
  change x.toModel.toBits.toNat % 2 ^ 63 < _
  change ¬ x.toModel.toBits.toNat / 2 ^ 52 % 2 ^ 11 = 2047 at notOnes
  omega

theorem eq_of_isInf {x : Float} (inf : x.isInf = true) : x = 1.0 / 0.0 ∨ x = -1.0 / 0.0 := by
  change (unpack format x.toModel.toBits.toBitVec).isInf = true at inf
  have packed : pack format (unpack format x.toModel.toBits.toBitVec) = x.toModel.toBits.toBitVec :=
    pack_unpack_of_valid x.toModel.valid
  cases found : unpack format x.toModel.toBits.toBitVec with
  | infinity sign =>
    rw [found] at packed
    rw [← Float.toBits_inj, ← Float.toBits_inj, ← UInt64.toBitVec_inj, ← UInt64.toBitVec_inj]
    cases sign with
    | positive => exact .inl packed.symm
    | negative => exact .inr packed.symm
  | _ =>
    rw [found] at inf
    cases inf

theorem eq_of_isNaN {x : Float} (nan : x.isNaN = true) : x = 0.0 / 0.0 := by
  rw [Float.isNaN_eq_decide_eq_nan, decide_eq_true_eq] at nan
  rw [nan]
  rfl

theorem isFinite_of_not {x : Float} (notNaN : x.isNaN = false) (notInf : x.isInf = false) :
    x.isFinite = true := by
  change x.toModel.unpack.isNaN = false at notNaN
  change x.toModel.unpack.isInf = false at notInf
  change x.toModel.unpack.isFinite = true
  revert notNaN notInf
  cases x.toModel.unpack <;> simp [isNaN, isInf, isFinite]

theorem unpack_signed {b c : BitVec format.numBits} (small : b.toNat < 2 ^ 63)
    (signed : c.toNat = b.toNat + 2 ^ 63) : unpack format c = (unpack format b).neg := by
  have exponent : unpackExponent c = unpackExponent b := by
    rw [← BitVec.toNat_inj, toNat_unpackExponent, toNat_unpackExponent]
    omega
  have mantissa : unpackMantissa c = unpackMantissa b := by
    rw [← BitVec.toNat_inj, toNat_unpackMantissa, toNat_unpackMantissa]
    omega
  have positive : Sign.ofBitVec (unpackSign b) = .positive := by
    have bit : unpackSign b = 0#1 := by
      rw [← BitVec.toNat_inj, toNat_unpackSign]
      simp
      omega
    rw [bit]
    rfl
  have negative : Sign.ofBitVec (unpackSign c) = .negative := by
    have bit : unpackSign c = 1#1 := by
      rw [← BitVec.toNat_inj, toNat_unpackSign]
      simp
      omega
    rw [bit]
    rfl
  unfold unpack
  simp only [exponent, mantissa, positive, negative]
  split
  · split <;> rfl
  · split
    · split <;> rfl
    · rfl

/-- The negative of a number has its sign bit set. -/
theorem neg_ofBits {b c : UInt64} (bound : b.toNat ≤ infinityBits) (signed : c.toNat = b.toNat + signBit) :
    -(Float.ofBits b) = Float.ofBits c := by
  have value : infinityBits = 2047 * 2 ^ 52 := rfl
  have limit : signBit = 2 ^ 63 := rfl
  have bits : (Float.ofBits b).toBits = b := toBits_ofBits (by omega)
  have negated : (-(Float.ofBits b)).toBits.toBitVec =
      pack format (unpack format (Float.ofBits b).toBits.toBitVec).neg := rfl
  have signedBits : (Float.ofBits c).toBits.toBitVec = pack format (unpack format c.toBitVec) := rfl
  rw [← Float.toBits_inj, ← UInt64.toBitVec_inj, negated, signedBits, bits]
  have small : b.toBitVec.toNat < 2 ^ 63 := by
    change b.toNat < _
    omega
  have added : c.toBitVec.toNat = b.toBitVec.toNat + 2 ^ 63 := limit ▸ signed
  rw [unpack_signed small added]

/-- A number is the one with its magnitude bits, or the negative of that. -/
theorem eq_of_magnitudeBits {x : Float} (finite : x.isFinite = true) :
    (if isNegative x then -(Float.ofBits (magnitudeBits x).toUInt64)
      else Float.ofBits (magnitudeBits x).toUInt64) = x := by
  have bound := magnitudeBits_lt_of_isFinite finite
  have value : infinityBits = 2047 * 2 ^ 52 := rfl
  have limit : signBit = 2 ^ 63 := rfl
  have toNat : (magnitudeBits x).toUInt64.toNat = magnitudeBits x := by
    change UInt64.toNat (UInt64.ofNat _) = _
    rw [UInt64.toNat_ofNat']
    omega
  have small : x.toBits.toNat < 2 ^ 64 := x.toBits.toNat_lt
  have parts : magnitudeBits x = x.toBits.toNat % 2 ^ 63 := rfl
  unfold isNegative
  rw [limit]
  split
  · rename_i set
    rw [beq_iff_eq] at set
    have signed : x.toBits.toNat = (magnitudeBits x).toUInt64.toNat + signBit := by omega
    rw [neg_ofBits (by omega) signed, Float.ofBits_toBits]
  · rename_i unset
    rw [beq_iff_eq] at unset
    have same : (magnitudeBits x).toUInt64 = x.toBits := by
      rw [← UInt64.toNat_inj, toNat]
      omega
    rw [same, Float.ofBits_toBits]

end CodeGraph.Decimal
