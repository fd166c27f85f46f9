import StepPulse.Proofs.Block.Built

/-! Where a built block starts to decelerate, whatever its speeds are squared to. -/

namespace StepPulse

open Float.Model UnpackedFloat

section NotANumber

theorem isNaN_iff_unpack (a : Float32) : a.isNaN = true ↔ a.toModel.unpack = .notANumber := by
  have same : a.isNaN = a.toModel.unpack.isNaN := rfl
  rw [same]
  cases a.toModel.unpack <;> simp [UnpackedFloat.isNaN]

theorem unpack_pack_notANumber :
    unpack .binary32 (pack .binary32 .notANumber) = .notANumber := by
  rfl

theorem isNaN_mul {a : Float32} (nan : a.isNaN = true) (b : Float32) : (a * b).isNaN = true := by
  rw [isNaN_iff_unpack] at nan ⊢
  have product : (a * b).toModel.unpack = unpack .binary32 (pack .binary32
      (UnpackedFloat.mul .binary32 a.toModel.unpack b.toModel.unpack)) := rfl
  rw [product, nan]
  exact unpack_pack_notANumber

theorem toUInt32_of_isNaN {a : Float32} (nan : a.isNaN = true) : a.toUInt32 = 0 := by
  have word : a.toUInt32 = a.toModel.unpack.toUInt32 := rfl
  rw [word, (isNaN_iff_unpack a).mp nan]
  rfl

theorem Ieee.clamp_total (value : Float32) {low high : Float32} (ordered : low ≤ high) :
    ∃ bounded, clamp value low high = .ok bounded := ⟨_, if_pos ordered⟩

theorem Ieee.clamp_of_isNaN {value low high : Float32} (nan : value.isNaN = true)
    (ordered : low ≤ high) : clamp value low high = .ok value := by
  have none := (isNaN_iff_unpack value).mp nan
  have below : ¬ value < low := by
    rw [lt_iff_unpack, none]
    exact Bool.false_ne_true
  have above : ¬ high < value := by
    rw [lt_iff_unpack, none]
    cases high.toModel.unpack <;> exact Bool.false_ne_true
  rw [clamp, if_pos ordered, if_neg below, if_neg above]

end NotANumber

namespace Block

variable {b : Block} {exitSquared exit : Float32}

/-- The distance at which the block starts to decelerate, before it is bounded by the block's
length, for a square of the exit speed that is bounded already. -/
def decelerationStart (b : Block) (exit : Float32) : Float32 :=
  let nominal := b.nominalSquared
  let entry := Ieee.minNum b.entrySquared nominal
  let accelerating := (nominal - entry) / (2.0 * b.acceleration)
  let decelerating := (nominal - exit) / (2.0 * b.acceleration)
  if accelerating + decelerating ≤ b.length then b.length - decelerating
  else (exit - entry + 2.0 * b.acceleration * b.length) / (4.0 * b.acceleration)

def eventsBefore (b : Block) (distance : Float32) : UInt32 :=
  min (distance * (b.events.toFloat32 / b.length)).toUInt32 b.events

theorem decelerateAfter_eq (moves : ¬ (b.events = 0 ∨ b.length ≤ 0.0 ∨ b.acceleration ≤ 0.0))
    (bounded : Ieee.clamp exitSquared 0.0 b.nominalSquared = .ok exit) :
    b.decelerateAfter exitSquared =
      (Ieee.clamp (b.decelerationStart exit) 0.0 b.length).map b.eventsBefore := by
  rw [decelerateAfter, if_neg moves]
  simp only [bounded]
  show (Ieee.clamp (b.decelerationStart exit) 0.0 b.length).bind _ = _
  cases Ieee.clamp (b.decelerationStart exit) 0.0 b.length <;> rfl

theorem eventsBefore_le (b : Block) (distance : Float32) : b.eventsBefore distance ≤ b.events := by
  rw [UInt32.le_iff_toNat_le, eventsBefore, Saturating.toNat_min]
  exact Nat.min_le_right _ _

theorem eventsBefore_of_isNaN {distance : Float32} (nan : distance.isNaN = true) :
    b.eventsBefore distance = 0 := by
  apply UInt32.toNat_inj.mp
  rw [eventsBefore, toUInt32_of_isNaN (isNaN_mul nan _), Saturating.toNat_min]
  exact Nat.zero_min _

/-- Deceleration towards one exit speed: neither pair of bounds is out of order, and what comes out
is a place within the block. -/
structure Decelerates (b : Block) (exitSquared : Float32) (exit start : Float32) (events : UInt32) :
    Prop where
  exits : Ieee.clamp exitSquared 0.0 b.nominalSquared = .ok exit
  starts : Ieee.clamp (b.decelerationStart exit) 0.0 b.length = .ok start
  after : b.decelerateAfter exitSquared = .ok events
  events_le : events ≤ b.events
  of_isNaN : (b.decelerationStart exit).isNaN = true → events = 0

theorem exists_decelerates (eventful : b.events ≠ 0) (length : Move.usable b.length = true)
    (nominal : 0.0 ≤ b.nominalSquared) (acceleration : Move.usable b.acceleration = true)
    (exitSquared : Float32) : ∃ exit start events, b.Decelerates exitSquared exit start events := by
  have moves : ¬ (b.events = 0 ∨ b.length ≤ 0.0 ∨ b.acceleration ≤ 0.0) := by
    rintro (none | short | slow)
    · exact eventful none
    · exact not_le_zero_of_usable length short
    · exact not_le_zero_of_usable acceleration slow
  have ordered := zero_le_of_usable length
  obtain ⟨exit, exits⟩ := Ieee.clamp_total exitSquared nominal
  obtain ⟨start, starts⟩ := Ieee.clamp_total (b.decelerationStart exit) ordered
  have after : b.decelerateAfter exitSquared = .ok (b.eventsBefore start) := by
    rw [decelerateAfter_eq moves exits, starts]
    rfl
  refine ⟨exit, start, b.eventsBefore start, exits, starts, after, b.eventsBefore_le start, ?_⟩
  intro nan
  rw [Ieee.clamp_of_isNaN nan ordered] at starts
  obtain rfl := Except.ok.inj starts
  exact eventsBefore_of_isNaN nan

end Block

namespace Move

variable {m : Move} {b : Block}

theorem decelerates (built : m.build = .ok b) (exitSquared : Float32) :
    ∃ exit start events, b.Decelerates exitSquared exit start events := by
  obtain ⟨eventful, feasible, rfl⟩ := build_eq_ok built
  apply Block.exists_decelerates
  · rw [block_events]
    exact eventful
  · rw [block_length]
    exact feasible.length
  · rw [block_nominalSquared]
    exact zero_le_squared feasible.nominal
  · rw [block_acceleration]
    exact feasible.acceleration

end Move

end StepPulse
