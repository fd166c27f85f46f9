import Mathlib
import StepPulse.Block.Move

namespace StepPulse

open Float.Model UnpackedFloat

inductive Unsigned : UnpackedFloat → Prop
  | zero : Unsigned (.zero .positive)
  | finite {mantissa : Nat} {exponent : Int} (positive : 0 < mantissa) :
      Unsigned (.finite .positive mantissa exponent positive)
  | infinity : Unsigned (.infinity .positive)

theorem Unsigned.zero_le {a : UnpackedFloat} (unsigned : Unsigned a) :
    (UnpackedFloat.zero .positive).le a = true := by
  cases unsigned <;> rfl

theorem unsigned_unpack {spec : Format} {exponent : BitVec spec.exponentBits}
    {mantissa : BitVec spec.mantissaBitsWithoutImplicit}
    (number : exponent = -1#_ → mantissa = 0#_) :
    Unsigned (unpack spec (packComponents spec .positive exponent mantissa)) := by
  have positive : Sign.ofBitVec Sign.positive.toBitVec = .positive := rfl
  simp only [UnpackedFloat.unpack, unpackMantissa_packComponents, unpackExponent_packComponents,
    unpackSign_packComponents, positive]
  by_cases top : exponent = -1#_
  · rw [if_pos top, if_pos (number top)]
    exact .infinity
  · rw [if_neg top]
    by_cases bottom : exponent = 0#_
    · rw [if_pos bottom]
      by_cases none : mantissa = 0#_
      · rw [dif_pos none]
        exact .zero
      · rw [dif_neg none]
        exact .finite _
    · rw [if_neg bottom]
      exact .finite _

theorem zero_ne_top (spec : Format) : 0#(spec.exponentBits) ≠ -1#_ := by
  intro same
  have bits := congrArg BitVec.toNat same
  have some_bit := spec.he
  have two : 2 ^ 1 ≤ 2 ^ spec.exponentBits := Nat.pow_le_pow_right (by decide) some_bit
  rw [BitVec.neg_one_eq_allOnes, BitVec.toNat_allOnes, BitVec.toNat_zero] at bits
  omega

theorem unsigned_unpack_pack (spec : Format) {a : UnpackedFloat} (unsigned : Unsigned a) :
    Unsigned (unpack spec (pack spec a)) := by
  cases unsigned with
  | zero => exact unsigned_unpack fun top => absurd top (zero_ne_top spec)
  | infinity => exact unsigned_unpack fun _ => rfl
  | @finite mantissa exponent positive =>
      simp only [UnpackedFloat.pack]
      split
      · exact unsigned_unpack fun _ => rfl
      · next small =>
        split
        · refine unsigned_unpack fun top => absurd (congrArg BitVec.toNat top) ?_
          rw [BitVec.neg_one_eq_allOnes, BitVec.toNat_allOnes, BitVec.toNat_ofNat,
            Nat.mod_eq_of_lt (by omega)]
          omega
        · exact unsigned_unpack fun top => absurd top (zero_ne_top spec)

theorem unsigned_round (spec : Format) (mantissa : Nat) (exponent : Int) (accuracy : Accuracy) :
    Unsigned (roundWithAccuracy spec .positive mantissa exponent accuracy) := by
  simp only [roundWithAccuracy]
  split
  · exact .zero
  · exact .finite _

theorem le_iff_unpack (a b : Float32) :
    a ≤ b ↔ a.toModel.unpack.le b.toModel.unpack = true := by
  show decide (a.toModel ≤ b.toModel) = true ↔ _
  rw [decide_eq_true_iff]
  rfl

theorem lt_iff_unpack (a b : Float32) :
    a < b ↔ a.toModel.unpack.lt b.toModel.unpack = true := by
  show decide (a.toModel < b.toModel) = true ↔ _
  rw [decide_eq_true_iff]
  rfl

theorem zero_unpack : (0.0 : Float32).toModel.unpack = .zero .positive := by
  rfl

theorem unpack_of_usable {a : Float32} (usable : Move.usable a = true) :
    ∃ mantissa exponent, ∃ positive : 0 < mantissa,
      a.toModel.unpack = .finite .positive mantissa exponent positive := by
  rw [Move.usable, Bool.and_eq_true, Bool.not_eq_true'] at usable
  obtain ⟨finite, above⟩ := usable
  have finite' : a.toModel.unpack.isFinite = true := finite
  have above' : a.toModel.unpack.le (.zero .positive) = false := by
    rw [← zero_unpack, ← Bool.not_eq_true, ← le_iff_unpack]
    exact of_decide_eq_false above
  generalize a.toModel.unpack = value at finite' above'
  cases value with
  | infinity => contradiction
  | notANumber => contradiction
  | zero => contradiction
  | finite sign mantissa exponent positive =>
      cases sign with
      | negative => contradiction
      | positive => exact ⟨mantissa, exponent, positive, rfl⟩

theorem zero_le_of_usable {a : Float32} (usable : Move.usable a = true) : 0.0 ≤ a := by
  obtain ⟨mantissa, exponent, positive, unpacked⟩ := unpack_of_usable usable
  rw [le_iff_unpack, zero_unpack, unpacked]
  rfl

theorem not_le_zero_of_usable {a : Float32} (usable : Move.usable a = true) : ¬ a ≤ 0.0 := by
  rw [Move.usable, Bool.and_eq_true, Bool.not_eq_true', decide_eq_false_iff_not] at usable
  exact usable.2

theorem zero_le_squared {v : Speed} (usable : Move.usable v.value = true) : 0.0 ≤ v.squared := by
  obtain ⟨mantissa, exponent, positive, unpacked⟩ := unpack_of_usable usable
  have product : v.squared.toModel.unpack =
      unpack .binary32 (pack .binary32 (UnpackedFloat.mul .binary32 v.value.toModel.unpack
        v.value.toModel.unpack)) := rfl
  rw [le_iff_unpack, zero_unpack, product, unpacked]
  exact (unsigned_unpack_pack .binary32 (unsigned_round ..)).zero_le

end StepPulse
