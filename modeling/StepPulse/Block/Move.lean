import StepPulse.Block.Basic
import StepPulse.Error

namespace StepPulse

structure Move where
  steps : PerAxis Int32 := PerAxis.constant 0
  length : Float32 := 0.0
  entry : Speed := ⟨0.0⟩
  nominal : Speed := ⟨0.0⟩
  acceleration : Acceleration := ⟨0.0⟩

namespace Move

def withSteps (m : Move) (steps : PerAxis Int32) : Move := { m with steps := steps }

def withAxis (m : Move) (axis : Axis) (steps : Int32) : Move :=
  { m with steps := m.steps.set axis steps }

def magnitude (steps : Int32) : UInt32 := UInt32.ofNat steps.toInt.natAbs

def directions (m : Move) : Lines :=
  Axis.all.foldl
    (fun lines axis => if m.steps.get axis < 0 then lines ||| Lines.direction axis else lines)
    Lines.none

def events (m : Move) : UInt32 :=
  let steps := m.steps.map magnitude
  max steps.x (max steps.y steps.z)

def usable (a : Float32) : Bool := a.isFinite && !(a ≤ 0.0)

/-- Of several faults the first in this order is reported: steps, length, nominal speed, entry
speed, their order, acceleration. -/
def build (m : Move) : Except BlockError Block :=
  if m.events = 0 then .error .empty
  else if ¬ usable m.length then .error (.length m.length)
  else if ¬ usable m.nominal.value then .error (.speed m.nominal.value)
  else if ¬ m.entry.value.isFinite ∨ m.entry.value < 0.0 then .error (.speed m.entry.value)
  else if m.nominal.value < m.entry.value then
    .error (.entryAboveNominal m.entry.value m.nominal.value)
  else if ¬ usable m.acceleration.value then .error (.acceleration m.acceleration.value)
  else .ok
    { steps := m.steps.map magnitude
      events := m.events
      directions := m.directions
      entrySquared := m.entry.squared
      nominalSquared := m.nominal.squared
      acceleration := m.acceleration.value
      length := m.length }

end Move

end StepPulse
