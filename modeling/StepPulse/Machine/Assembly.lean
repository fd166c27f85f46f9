import StepPulse.Machine.Hardware
import StepPulse.Ramp
import StepPulse.Segment.Pipeline

/-! A rig, which is fixed once it is assembled, and the state that runs on it. -/

namespace StepPulse

inductive RunState where
  | idle
  | queued
  | cycle
  | hold
  | alarm
  deriving DecidableEq, Repr, Inhabited

def RunState.text : RunState → String
  | idle => "Idle"
  | queued => "Queued"
  | cycle => "Cycle"
  | hold => "Hold"
  | alarm => "Alarm"

inductive Load where
  | nothing
  | segment
  | block
  deriving DecidableEq, Repr, Inhabited

structure ActiveBlock where
  steps : PerAxis UInt32 := PerAxis.constant 0
  events : UInt32 := 0
  directions : Lines := Lines.none
  deriving DecidableEq, Repr

def Block.active (b : Block) : ActiveBlock :=
  { steps := b.steps, events := b.events, directions := b.directions.directionLines }

structure Runtime where
  /-- One counter per axis, from which its steps are taken; a step is due below zero. -/
  counters : PerAxis Int := PerAxis.constant 0
  /-- Distance left to the next step event; the event is due below zero. -/
  distance : Int := 0
  stepsRemaining : UInt32 := 0
  ramp : Ramp := {}
  staged : Option Lines := none
  load : Load := .block
  busy : Bool := false
  block : ActiveBlock := {}
  segment : Segment := {}
  deriving DecidableEq, Repr

instance : Inhabited Runtime := ⟨{}⟩

structure Rig (H : Type) where
  port : Port H
  delay : Delay H
  settings : Settings
  sizing : Sizing

structure Machine (H : Type) (capacity : Nat) where
  hardware : H
  planner : BlockQueue capacity
  pipeline : Pipeline := {}
  runtime : Runtime := {}
  position : PerAxis Steps := PerAxis.constant 0
  runState : RunState := .idle
  /-- The machine stopped by itself, and nobody has taken notice yet. -/
  cycleStop : Bool := false

namespace Machine

variable {H : Type} {capacity : Nat}

/-- Clear the runtime and start slicing again from the planner's front block. Position and run
state are kept. -/
def reset (m : Machine H capacity) : Machine H capacity :=
  { m with runtime := {}, pipeline := m.pipeline.reset m.planner.tail }

def fresh (hardware : H) (planner : BlockQueue capacity) : Machine H capacity :=
  reset { hardware := hardware, planner := planner }

def ratePerTick (rig : Rig H) (m : Machine H capacity) : UInt32 :=
  m.runtime.ramp.ratePerTick rig.settings.minimumStepRate

def setPosition (m : Machine H capacity) (axis : Axis) (steps : Steps) : Machine H capacity :=
  { m with position := m.position.set axis steps }

def setBusy (m : Machine H capacity) (busy : Bool) : Machine H capacity :=
  { m with runtime := { m.runtime with busy := busy } }

def startTicks (rig : Rig H) (m : Machine H capacity) : Machine H capacity :=
  { m with hardware := rig.port.timer.start m.hardware }

def stopTicks (rig : Rig H) (m : Machine H capacity) : Machine H capacity :=
  { m with hardware := rig.port.timer.stop m.hardware }

def write (w : Write H) (m : Machine H capacity) : Except LineError Unit × Machine H capacity :=
  let (result, hardware) := w m.hardware
  (result, { m with hardware := hardware })

end Machine

structure Assembly (H : Type) (capacity : Nat) where
  planner : Option (BlockQueue capacity) := none
  port : Option (Port H) := none
  delay : Option (Delay H) := none
  settings : Settings := {}
  sizing : Sizing := Sizing.fixed

/-- Missing parts are reported first, in this order: planner, port, delay. Then the settings are
checked. -/
def Assembly.build {H : Type} {capacity : Nat} (a : Assembly H capacity) (hardware : H) :
    Except SettingsError (Rig H × Machine H capacity) :=
  match a.planner, a.port, a.delay with
  | none, _, _ => .error (.missing "planner")
  | _, none, _ => .error (.missing "port")
  | _, _, none => .error (.missing "delay")
  | some planner, some port, some delay =>
    match a.settings.check with
    | .error cause => .error cause
    | .ok () =>
      .ok ({ port := port, delay := delay, settings := a.settings, sizing := a.sizing },
        Machine.fresh hardware planner)

end StepPulse
