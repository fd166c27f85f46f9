import StepPulse.Number.Arithmetic
import StepPulse.Settings.Basic

/-! A straight move as the planner hands it to the machine, and its rates. -/

namespace StepPulse

structure Block where
  steps : PerAxis UInt32
  events : UInt32
  directions : Lines
  entrySquared : Float32
  nominalSquared : Float32
  acceleration : Float32
  length : Float32
  deriving DecidableEq, Repr, Inhabited

namespace Block

def isNegative (b : Block) (axis : Axis) : Bool := b.directions.contains (Lines.direction axis)

def signedSteps (b : Block) (axis : Axis) : Steps :=
  let steps : Int := (b.steps.get axis).toNat
  if b.isNegative axis then -steps else steps

end Block

/-- Whole step events before deceleration, for a given square of the exit speed. A block without
length or acceleration has no place to slow down, and never decelerates. -/
def Block.decelerateAfter (b : Block) (exitSquared : Float32) : Except ClampFault UInt32 :=
  if b.events = 0 ∨ b.length ≤ 0.0 ∨ b.acceleration ≤ 0.0 then .ok b.events
  else do
    let nominal := b.nominalSquared
    let entry := Ieee.minNum b.entrySquared nominal
    let exit ← Ieee.clamp exitSquared 0.0 nominal
    let accelerating := (nominal - entry) / (2.0 * b.acceleration)
    let decelerating := (nominal - exit) / (2.0 * b.acceleration)
    let start :=
      if accelerating + decelerating ≤ b.length then b.length - decelerating
      else (exit - entry + 2.0 * b.acceleration * b.length) / (4.0 * b.acceleration)
    let start ← Ieee.clamp start 0.0 b.length
    let eventsPerUnit := b.events.toFloat32 / b.length
    return min (start * eventsPerUnit).toUInt32 b.events

structure Rates where
  initial : UInt32 := 0
  nominal : UInt32 := 0
  delta : UInt32 := 0
  stepDistance : UInt32 := 0
  distancePerStep : Float32 := 0.0
  deriving DecidableEq, Repr, Inhabited

/-- Worked in double precision with the numerator first, so that an exact quotient stays exact. -/
def Rates.ofBlock (b : Block) (s : Settings) : Rates :=
  let scale := Ieee.widen s.fixedPointScale
  let ticks := (max s.tickFrequency.value 1).toFloat
  let updates := (max s.accelerationTicks 1).toFloat
  let events := (max b.events 1).toFloat
  let entry := (Ieee.widen (Ieee.maxNum b.entrySquared 0.0)).sqrt
  let nominal := (Ieee.widen (Ieee.maxNum b.nominalSquared 0.0)).sqrt
  let acceleration := Ieee.widen (Ieee.maxNum b.acceleration 0.0)
  let length := Ieee.widen b.length
  { initial := Ieee.ceilWord (entry * scale / (60.0 * ticks))
    nominal := Ieee.ceilWord (nominal * scale / (60.0 * ticks))
    delta := Ieee.ceilWord (acceleration * scale / (3600.0 * ticks * updates))
    stepDistance := Ieee.ceilWord (length * scale / events)
    distancePerStep := Ieee.narrow (length / events) }

end StepPulse
