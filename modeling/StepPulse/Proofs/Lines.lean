import Mathlib.Data.Nat.Bitwise
import StepPulse.Lines

namespace StepPulse.Lines

def stepBit : Axis → Nat
  | .x => 0
  | .y => 1
  | .z => 2

theorem contains_bit (image : Lines) {bits : UInt8} {index : Nat}
    (single : bits.toNat = 2 ^ index) :
    image.contains ⟨bits⟩ = image.bits.toNat.testBit index := by
  have met : (image.bits &&& bits).toNat = (image.bits.toNat.testBit index).toNat * 2 ^ index := by
    rw [UInt8.toNat_and, single, Nat.and_two_pow]
  have positive : 0 < 2 ^ index := Nat.two_pow_pos index
  show ((⟨image.bits &&& bits⟩ : Lines) == ⟨bits⟩) = _
  cases set : image.bits.toNat.testBit index with
  | false =>
      refine beq_eq_false_iff_ne.mpr fun same => ?_
      rw [Lines.mk.injEq, ← UInt8.toNat_inj, met, set, single, Bool.toNat_false] at same
      omega
  | true =>
      rw [beq_iff_eq, Lines.mk.injEq, ← UInt8.toNat_inj, met, set, single, Bool.toNat_true,
        Nat.one_mul]

theorem contains_step (image : Lines) (axis : Axis) :
    image.contains (step axis) = image.bits.toNat.testBit (stepBit axis) := by
  cases axis <;> exact contains_bit image rfl

theorem contains_direction (image : Lines) (axis : Axis) :
    image.contains (direction axis) = image.bits.toNat.testBit (stepBit axis + 3) := by
  cases axis <;> exact contains_bit image rfl

@[simp] theorem bits_or (a b : Lines) : (a ||| b).bits = a.bits ||| b.bits := rfl

@[simp] theorem bits_and (a b : Lines) : (a &&& b).bits = a.bits &&& b.bits := rfl

theorem contains_step_step (axis other : Axis) :
    (step other).contains (step axis) = decide (axis = other) := by
  cases axis <;> cases other <;> rfl

theorem contains_direction_direction (axis other : Axis) :
    (direction other).contains (direction axis) = decide (axis = other) := by
  cases axis <;> cases other <;> rfl

theorem contains_direction_directionLines (image : Lines) (axis : Axis) :
    image.directionLines.contains (direction axis) = image.contains (direction axis) := by
  rw [contains_direction, contains_direction, directionLines, bits_and, UInt8.toNat_and,
    Nat.testBit_and]
  cases axis <;> exact Bool.and_true _

theorem contains_step_directionLines (image : Lines) (axis : Axis) :
    image.directionLines.contains (step axis) = false := by
  rw [contains_step, directionLines, bits_and, UInt8.toNat_and, Nat.testBit_and]
  cases axis <;> exact Bool.and_false _

theorem xor_and (a b mask : Lines) : (a ^^^ b) &&& mask = (a &&& mask) ^^^ (b &&& mask) := by
  show (⟨(a.bits ^^^ b.bits) &&& mask.bits⟩ : Lines) =
    ⟨(a.bits &&& mask.bits) ^^^ (b.bits &&& mask.bits)⟩
  rw [Lines.mk.injEq, ← UInt8.toNat_inj]
  simp only [UInt8.toNat_and, UInt8.toNat_xor, Nat.and_xor_distrib_right]

theorem directionLines_xor (a b : Lines) :
    (a ^^^ b).directionLines = a.directionLines ^^^ b.directionLines := xor_and a b directionMask

theorem stepLines_xor (a b : Lines) : (a ^^^ b).stepLines = a.stepLines ^^^ b.stepLines :=
  xor_and a b stepMask

theorem stepLines_none : none.stepLines = none := by decide

theorem or_and (a b mask : Lines) : (a ||| b) &&& mask = (a &&& mask) ||| (b &&& mask) := by
  show (⟨(a.bits ||| b.bits) &&& mask.bits⟩ : Lines) =
    ⟨(a.bits &&& mask.bits) ||| (b.bits &&& mask.bits)⟩
  rw [Lines.mk.injEq, ← UInt8.toNat_inj]
  simp only [UInt8.toNat_and, UInt8.toNat_or, Nat.and_or_distrib_right]

theorem directionLines_or (a b : Lines) :
    (a ||| b).directionLines = a.directionLines ||| b.directionLines := or_and a b directionMask

theorem directionLines_step (axis : Axis) : (step axis).directionLines = none := by
  cases axis <;> rfl

theorem directionLines_direction (axis : Axis) :
    (direction axis).directionLines = direction axis := by
  cases axis <;> rfl

theorem or_none (image : Lines) : image ||| none = image := congrArg Lines.mk UInt8.or_zero

section AddLines

variable (due : Axis → Prop) [DecidablePred due] (axes : List Axis) (image : Lines) (axis : Axis)

theorem testBit_foldl_or (line : Axis → Lines) (index : Nat) :
    (axes.foldl (fun image axis => if due axis then image ||| line axis else image)
      image).bits.toNat.testBit index =
      (image.bits.toNat.testBit index ||
        axes.any fun axis => decide (due axis) && (line axis).bits.toNat.testBit index) := by
  induction axes generalizing image with
  | nil => exact (Bool.or_false _).symm
  | cons axis rest ih =>
      rw [List.foldl_cons, ih, List.any_cons]
      by_cases adds : due axis
      · rw [if_pos adds, decide_eq_true adds, Bool.true_and, bits_or, UInt8.toNat_or,
          Nat.testBit_or, Bool.or_assoc]
      · rw [if_neg adds, decide_eq_false adds, Bool.false_and, Bool.false_or]

theorem any_due_eq :
    (axes.any fun other => decide (due other) && decide (axis = other)) =
      decide (axis ∈ axes ∧ due axis) := by
  rw [Bool.eq_iff_iff, List.any_eq_true, decide_eq_true_iff]
  constructor
  · rintro ⟨other, member, both⟩
    rw [Bool.and_eq_true, decide_eq_true_iff, decide_eq_true_iff] at both
    obtain ⟨adds, rfl⟩ := both
    exact ⟨member, adds⟩
  · rintro ⟨member, adds⟩
    refine ⟨axis, member, ?_⟩
    rw [decide_eq_true adds, decide_eq_true rfl, Bool.and_true]

def addSteps : Lines :=
  axes.foldl (fun image other => if due other then image ||| step other else image) image

theorem contains_step_addSteps :
    (addSteps due axes image).contains (step axis) =
      (image.contains (step axis) || decide (axis ∈ axes ∧ due axis)) := by
  rw [contains_step, addSteps, testBit_foldl_or]
  simp only [← contains_step, contains_step_step, any_due_eq]

theorem directionLines_addSteps :
    (addSteps due axes image).directionLines = image.directionLines := by
  refine List.foldlRecOn
    (motive := fun added : Lines => added.directionLines = image.directionLines) axes _ rfl ?_
  intro added same other _
  split
  · rw [directionLines_or, directionLines_step, or_none, same]
  · exact same

theorem contains_direction_addSteps :
    (addSteps due axes image).contains (direction axis) = image.contains (direction axis) := by
  rw [← contains_direction_directionLines, directionLines_addSteps,
    contains_direction_directionLines]

end AddLines

theorem xor_assoc (a b c : Lines) : a ^^^ b ^^^ c = a ^^^ (b ^^^ c) :=
  congrArg Lines.mk (UInt8.xor_assoc a.bits b.bits c.bits)

theorem xor_none (image : Lines) : image ^^^ none = image := congrArg Lines.mk UInt8.xor_zero

theorem none_xor (image : Lines) : none ^^^ image = image := congrArg Lines.mk UInt8.zero_xor

theorem xor_xor (image inverted : Lines) : image ^^^ inverted ^^^ inverted = image := by
  show (⟨image.bits ^^^ inverted.bits ^^^ inverted.bits⟩ : Lines) = image
  rw [UInt8.xor_assoc, UInt8.xor_self, UInt8.xor_zero]

theorem contains_step_xor_self (image : Lines) (axis : Axis) :
    (image ^^^ image).contains (step axis) = false := by
  have dark : image ^^^ image = none := congrArg Lines.mk UInt8.xor_self
  rw [dark, contains_step]
  exact Nat.zero_testBit _

theorem directionLines_inj_xor {a b inverted : Lines}
    (same : (a ^^^ inverted).directionLines = (b ^^^ inverted).directionLines) :
    a.directionLines = b.directionLines := by
  rw [directionLines_xor, directionLines_xor] at same
  calc a.directionLines
    _ = a.directionLines ^^^ inverted.directionLines ^^^ inverted.directionLines :=
      (xor_xor _ _).symm
    _ = b.directionLines ^^^ inverted.directionLines ^^^ inverted.directionLines := by rw [same]
    _ = b.directionLines := xor_xor _ _

end StepPulse.Lines
