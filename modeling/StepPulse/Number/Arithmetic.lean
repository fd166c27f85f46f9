/-!
Arithmetic of words that stops at the ends of their range, and operations on floats. The latter are
built on the model of the format, so that closed instances evaluate in proofs.
-/

namespace StepPulse

namespace Saturating

def maxWord : UInt32 := 4294967295

def add (a b : UInt32) : UInt32 :=
  if a.toNat + b.toNat < UInt32.size then a + b else maxWord

def sub (a b : UInt32) : UInt32 :=
  if b ≤ a then a - b else 0

theorem toNat_add (a b : UInt32) : (add a b).toNat = min (a.toNat + b.toNat) 4294967295 := by
  unfold add
  split
  · next fits =>
    rw [UInt32.toNat_add, Nat.mod_eq_of_lt fits]
    simp only [UInt32.size] at fits
    omega
  · next overflow =>
    have top : maxWord.toNat = 4294967295 := rfl
    simp only [UInt32.size] at overflow
    omega

theorem toNat_sub (a b : UInt32) : (sub a b).toNat = a.toNat - b.toNat := by
  unfold sub
  split
  · next le => exact UInt32.toNat_sub_of_le a b le
  · next gt =>
    have : ¬ b.toNat ≤ a.toNat := fun le => gt (UInt32.le_iff_toNat_le.mpr le)
    have zero : (0 : UInt32).toNat = 0 := rfl
    omega

theorem toNat_max (a b : UInt32) : (max a b).toNat = max a.toNat b.toNat := by
  rw [show max a b = if a ≤ b then b else a from rfl]
  split
  · next le => rw [UInt32.le_iff_toNat_le] at le; omega
  · next gt => rw [UInt32.le_iff_toNat_le] at gt; omega

theorem toNat_min (a b : UInt32) : (min a b).toNat = min a.toNat b.toNat := by
  rw [show min a b = if a ≤ b then a else b from rfl]
  split
  · next le => rw [UInt32.le_iff_toNat_le] at le; omega
  · next gt => rw [UInt32.le_iff_toNat_le] at gt; omega

end Saturating

/-- Bounds between which no value can be clamped: one is a NaN, or they are reversed. -/
structure ClampFault where
  low : Float32
  high : Float32
  deriving DecidableEq, Repr

namespace Ieee

open Float.Model

def minNum (a b : Float32) : Float32 :=
  if a.isNaN then b else if b < a then b else a

def maxNum (a b : Float32) : Float32 :=
  if a.isNaN then b else if a < b then b else a

/-- The value moved into `[low, high]`; a NaN stays a NaN. -/
def clamp (value low high : Float32) : Except ClampFault Float32 :=
  if low ≤ high then
    .ok (if value < low then low else if high < value then high else value)
  else .error ⟨low, high⟩

def widen (a : Float32) : Float :=
  match a.toModel.unpack with
  | .finite sign mantissa exponent _ => ⟨.pack (.round .binary64 sign mantissa exponent)⟩
  | special => ⟨.pack special⟩

def narrow (a : Float) : Float32 :=
  match a.toModel.unpack with
  | .finite sign mantissa exponent _ => ⟨.pack (.round .binary32 sign mantissa exponent)⟩
  | special => ⟨.pack special⟩

/-- The least word not below `a`: 0 for a NaN and below zero, the largest word beyond the range. -/
def ceilWord (a : Float) : UInt32 :=
  let whole := a.toUInt32
  if whole.toFloat < a then Saturating.add whole 1 else whole

end Ieee

end StepPulse
