import StepPulse.Number.Arithmetic

/-! A rate that changes once per period, for the first time half a period early. -/

namespace StepPulse

inductive RampPhase where
  | accel
  | cruise
  | decel
  deriving DecidableEq, Repr, Inhabited

def RampPhase.text : RampPhase → String
  | accel => "accel"
  | cruise => "cruise"
  | decel => "decel"

structure Ramp where
  phase : RampPhase := .cruise
  count : UInt32 := 0
  rate : UInt32 := 0
  deriving DecidableEq, Repr

namespace Ramp

instance : Inhabited Ramp := ⟨{}⟩

/-- The rate in effect, held up by a floor so that motion never stalls. -/
def ratePerTick (r : Ramp) (floor : UInt32) : UInt32 := max r.rate floor

def start (initial period : UInt32) : Ramp := { phase := .accel, count := period / 2, rate := initial }

/-- From acceleration the countdown is mirrored, so that the descent retraces the ascent. -/
def beginDeceleration (r : Ramp) (period : UInt32) : Ramp :=
  match r.phase with
  | .cruise => { r with phase := .decel, count := period / 2 }
  | .accel => { r with phase := .decel, count := max (Saturating.sub period r.count) 1 }
  | .decel => r

def accelerate (r : Ramp) (nominal delta : UInt32) : Ramp :=
  let rate := Saturating.add r.rate delta
  if nominal ≤ rate then { r with phase := .cruise, rate := nominal } else { r with rate := rate }

def decelerate (r : Ramp) (delta : UInt32) : Ramp :=
  if delta < r.rate then { r with rate := r.rate - delta } else { r with rate := r.rate >>> 1 }

def update (r : Ramp) (nominal delta period : UInt32) : Ramp :=
  if r.phase = .cruise then r
  else
    let left := Saturating.sub r.count 1
    if 0 < left then { r with count := left }
    else
      match r.phase with
      | .accel => { r with count := period }.accelerate nominal delta
      | .decel => { r with count := period }.decelerate delta
      | .cruise => r

variable {r : Ramp} {nominal delta period : UInt32}

theorem phase_beginDeceleration (r : Ramp) (period : UInt32) :
    (r.beginDeceleration period).phase = .decel := by
  rw [beginDeceleration]
  split
  · rfl
  · rfl
  · next decel => exact decel

theorem beginDeceleration_of_decel (decel : r.phase = .decel) : r.beginDeceleration period = r := by
  rw [beginDeceleration, decel]

theorem phase_accelerate (ascent : r.phase ≠ .decel) :
    (r.accelerate nominal delta).phase ≠ .decel := by
  simp only [accelerate]
  split
  · exact RampPhase.noConfusion
  · exact ascent

theorem phase_decelerate : (r.decelerate delta).phase = r.phase := by
  rw [decelerate]
  split <;> rfl

theorem phase_update : (r.update nominal delta period).phase = .decel ↔ r.phase = .decel := by
  simp only [update]
  split
  · rfl
  · split
    · rfl
    · split
      · next accel =>
        rw [accel]
        apply iff_of_false
        · apply phase_accelerate
          exact RampPhase.noConfusion
        · exact RampPhase.noConfusion
      · rw [phase_decelerate]
      · rfl

end Ramp

end StepPulse
