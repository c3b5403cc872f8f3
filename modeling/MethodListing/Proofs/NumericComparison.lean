/-
  MethodListing.Proofs.NumericComparison — COMPARING BITS AS NUMBERS.

  Floating-point constants are carried as 64 bits and compared by a rule about
  bits: no NaN is equal to anything, the two zeros are equal, and all else is
  equal if the bits are.  That this is how the numbers compare is shown here:
  unpacked into sign, mantissa and exponent, the bits are those of a `Float`,
  and the rule comes to the same as comparing the two floats.

  The point of it is that no two bit patterns stand for one number, the NaNs
  and the zeros apart: a number can be packed again, and gives its bits back.

  Main results:
    * `reads_number`     — what a bit pattern stands for, by its two fields;
    * `pack_number`      — a number that is none of the NaNs gives its bits back;
    * `beq_number_iff`   — when two numbers compare as equal;
    * `numericEq_eq_beq` — comparing bits is comparing floats.
-/
import Mathlib
import MethodListing.Debug.Declaration

namespace MethodListing.Binary64

open Float.Model.UnpackedFloat (Sign unpackExponent unpackMantissa unpackSign)

/-! ## §1. The fields of 64 bits. -/

/-- The sign. -/
def sign (x : Binary64) : Sign := .ofBitVec (@unpackSign .binary64 x.bits.toBitVec)

/-- Eleven bits of exponent. -/
def exponent (x : Binary64) : BitVec 11 := @unpackExponent .binary64 x.bits.toBitVec

/-- Fifty-two bits of fraction. -/
def fraction (x : Binary64) : BitVec 52 := @unpackMantissa .binary64 x.bits.toBitVec

variable (x : Binary64)

theorem toNat_exponent : x.exponent.toNat = x.bits.toNat / 0x10000000000000 % 0x800 := by
  simp [exponent, unpackExponent, Nat.shiftRight_eq_div_pow]

theorem toNat_fraction : x.fraction.toNat = x.bits.toNat % 0x10000000000000 := by
  simp [fraction, unpackMantissa]

theorem magnitude_eq : x.magnitude = 0x10000000000000 * x.exponent.toNat + x.fraction.toNat := by
  rw [magnitude, toNat_exponent, toNat_fraction]
  omega

/-- All exponent bits, and some fraction. -/
theorem isNaN_iff : x.isNaN = true ↔ x.exponent = -1#11 ∧ x.fraction ≠ 0#52 := by
  have hexponent := x.exponent.isLt
  have hfraction := x.fraction.isLt
  rw [isNaN, decide_eq_true_eq, magnitude_eq, ne_eq, ← BitVec.toNat_inj, ← BitVec.toNat_inj]
  show 0x7FF0000000000000 < _ ↔ _ = 0x7FF ∧ ¬ _ = 0
  omega

/-- No exponent bits, and no fraction. -/
theorem isZero_iff : x.isZero = true ↔ x.exponent = 0#11 ∧ x.fraction = 0#52 := by
  rw [isZero, beq_iff_eq, magnitude_eq, ← BitVec.toNat_inj, ← BitVec.toNat_inj]
  show _ ↔ _ = 0 ∧ _ = 0
  omega

/-! ## §2. The number that 64 bits stand for. -/

/-- **The number that the bits stand for**, unpacked into sign, mantissa and
exponent. -/
def number : Float.Model.UnpackedFloat := .unpack .binary64 x.bits.toBitVec

/-- **What the bits stand for, by their fields.**  An exponent of no bits
leaves the fraction as it is; any other puts a one before it. -/
inductive Reads : Float.Model.UnpackedFloat → Prop where
  | infinity (he : x.exponent = -1#11) (hf : x.fraction = 0#52) : Reads (.infinity x.sign)
  | notANumber (he : x.exponent = -1#11) (hf : x.fraction ≠ 0#52) : Reads .notANumber
  | zero (he : x.exponent = 0#11) (hf : x.fraction = 0#52) : Reads (.zero x.sign)
  | subnormal (he : x.exponent = 0#11) (hf : x.fraction ≠ 0#52) {m : Nat} {e : Int} (hm : 0 < m)
      (hmantissa : m = x.fraction.toNat) (hexponent : e = -1074) :
      Reads (.finite x.sign m e hm)
  | normal (hne : x.exponent ≠ -1#11) (he : x.exponent ≠ 0#11) {m : Nat} {e : Int} (hm : 0 < m)
      (hmantissa : m = 0x10000000000000 + x.fraction.toNat)
      (hexponent : e = x.exponent.toNat - 1075) : Reads (.finite x.sign m e hm)

theorem toNat_one_append (f : BitVec 52) : (1#1 ++ f).toNat = 0x10000000000000 + f.toNat := by
  rw [BitVec.toNat_append, ← Nat.shiftLeft_add_eq_or_of_lt f.isLt]
  rfl

theorem reads_number : x.Reads x.number := by
  unfold number Float.Model.UnpackedFloat.unpack
  simp only
  split
  case isTrue he =>
    split
    case isTrue hf => exact .infinity he hf
    case isFalse hf => exact .notANumber he hf
  case isFalse hne =>
    split
    case isTrue he =>
      split
      case isTrue hf => exact .zero he hf
      case isFalse hf =>
        have hzero : x.exponent.toNat = 0 := congrArg BitVec.toNat he
        refine .subnormal he hf _ rfl ?_
        show (x.exponent.toNat : Int) - 1075 + 1 = -1074
        omega
    case isFalse he => exact .normal hne he _ (toNat_one_append x.fraction) rfl

/-- **A number is missing exactly if the bits are a NaN.** -/
theorem number_eq_notANumber_iff : x.number = .notANumber ↔ x.isNaN = true := by
  rw [isNaN_iff]
  have hread := x.reads_number
  generalize x.number = f at hread
  cases hread with
  | notANumber he hf => exact iff_of_true rfl ⟨he, hf⟩
  | infinity he hf => exact iff_of_false nofun fun h => h.2 hf
  | zero he hf => exact iff_of_false nofun fun h => h.2 hf
  | subnormal he hf hm => exact iff_of_false nofun fun h => absurd (he.symm.trans h.1) (by decide)
  | normal hne he hm => exact iff_of_false nofun fun h => hne h.1

/-- **The number is a zero exactly if the bits are those of one.** -/
theorem exists_number_eq_zero_iff : (∃ s, x.number = .zero s) ↔ x.isZero = true := by
  rw [isZero_iff]
  have hread := x.reads_number
  generalize x.number = f at hread
  cases hread with
  | zero he hf => exact iff_of_true ⟨_, rfl⟩ ⟨he, hf⟩
  | notANumber he hf => exact iff_of_false nofun fun h => hf h.2
  | infinity he hf => exact iff_of_false nofun fun h => absurd (he.symm.trans h.1) (by decide)
  | subnormal he hf hm => exact iff_of_false nofun fun h => hf h.2
  | normal hne he hm => exact iff_of_false nofun fun h => he h.1

/-! ## §3. Packing the number again. -/

/-- A NaN, by its fields, is what the bits' magnitude says is one. -/
theorem isNaNBits_eq :
    @Float.Model.UnpackedFloat.isNaNBits .binary64 x.bits.toBitVec = x.isNaN := by
  rw [Bool.eq_iff_iff, isNaN_iff]
  exact decide_eq_true_iff

/-- **A number gives its bits back**, unless there is none. -/
theorem pack_number (h : x.isNaN = false) :
    Float.Model.UnpackedFloat.pack .binary64 x.number = x.bits.toBitVec := by
  rw [number, Float.Model.UnpackedFloat.pack_unpack, isNaNBits_eq, h, if_neg Bool.false_ne_true]

/-- **No two bit patterns stand for one number**, the NaNs apart. -/
theorem number_inj {x y : Binary64} (hx : x.isNaN = false) (hy : y.isNaN = false)
    (h : x.number = y.number) : x.bits = y.bits := by
  apply UInt64.toBitVec_inj.1
  rw [← x.pack_number hx, ← y.pack_number hy, h]

/-- Made into a `Float`, the bits stand for the same number: only a NaN may be
given other bits. -/
theorem unpack_ofBits : (Float.ofBits x.bits).toModel.unpack = x.number := by
  show Float.Model.UnpackedFloat.unpack .binary64
    (Float.Model.UnpackedFloat.pack .binary64 x.number) = x.number
  cases hnan : x.isNaN with
  | false =>
      rw [pack_number x hnan]
      rfl
  | true =>
      rw [(number_eq_notANumber_iff x).2 hnan]
      rfl

/-- The bits are a NaN exactly if the float is. -/
theorem isNaN_eq : x.isNaN = (Float.ofBits x.bits).isNaN := by
  show x.isNaN = (Float.ofBits x.bits).toModel.unpack.isNaN
  rw [unpack_ofBits, Bool.eq_iff_iff, ← number_eq_notANumber_iff]
  cases x.number <;> simp [Float.Model.UnpackedFloat.isNaN]

/-! ## §4. Comparing. -/

/-- **Two numbers compare as equal** exactly if neither is missing and they are
the same, or both are zeros. -/
theorem beq_number_iff (f g : Float.Model.UnpackedFloat) :
    f.beq g = true ↔ f ≠ .notANumber ∧ g ≠ .notANumber
      ∧ (f = g ∨ (∃ s, f = .zero s) ∧ ∃ s, g = .zero s) := by
  rw [Float.Model.UnpackedFloat.beq_iff_ne_notANumber_and_eq]
  refine and_congr_right fun _ => and_congr_right fun _ => ?_
  constructor
  · rintro (h | ⟨hf, hg⟩ | ⟨hf, hg⟩)
    · exact .inl h
    · exact .inr ⟨⟨_, hf⟩, _, hg⟩
    · exact .inr ⟨⟨_, hf⟩, _, hg⟩
  · rintro (h | ⟨⟨s, rfl⟩, t, rfl⟩)
    · exact .inl h
    · -- two zeros of one sign are the same number
      cases s <;> cases t <;> simp

/-- **Comparing bits is comparing floats.** -/
theorem numericEq_eq_beq (x y : Binary64) :
    x.numericEq y = (Float.ofBits x.bits == Float.ofBits y.bits) := by
  have hbeq : (Float.ofBits x.bits == Float.ofBits y.bits) = x.number.beq y.number := by
    rw [← unpack_ofBits, ← unpack_ofBits]
    rfl
  rw [hbeq, Bool.eq_iff_iff, beq_number_iff, ne_eq, ne_eq, number_eq_notANumber_iff,
    number_eq_notANumber_iff, exists_number_eq_zero_iff, exists_number_eq_zero_iff]
  simp only [numericEq, Bool.and_eq_true, Bool.or_eq_true, Bool.not_eq_true', and_assoc,
    Bool.not_eq_true, beq_iff_eq]
  refine and_congr_right fun hx => and_congr_right fun hy => or_congr_left ?_
  constructor
  · intro h
    exact congrArg (fun b => (⟨b⟩ : Binary64).number) h
  · exact number_inj hx hy

end MethodListing.Binary64
