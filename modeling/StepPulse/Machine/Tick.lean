import StepPulse.Machine.Lifecycle

/-!
The real-time callbacks. A tick writes the image staged by the tick before, loads a segment when
one is due, moves the ramp on, and takes the current rate from the distance to the next step event.
When the distance falls below zero a step event is due: the counters decide which axes step, and the
image with their step lines is staged for the next tick. So a direction line that changes with a new
block is written a tick before the block's first step.
-/

namespace StepPulse.Machine

variable {H : Type} {capacity : Nat}

/-- Stop everything at once. A write that fails here is not reported: the machine is in its alarm
already. -/
def enterAlarm (rig : Rig H) (m : Machine H capacity) : Machine H capacity :=
  let m := stopTicks rig { m with runState := .alarm }
  let (_, m) := m.write (rig.port.writeDisable rig.settings.disableLevel)
  { m.setBusy false with cycleStop := true }

def onPulseReset (rig : Rig H) (m : Machine H capacity) : Machine H capacity :=
  match m.write (rig.port.writeStepLines rig.settings.invertMask.stepLines) with
  | (.ok (), m) => m
  | (.error _, m) => enterAlarm rig m

def finishCycle (rig : Rig H) (m : Machine H capacity) : Machine H capacity :=
  match goIdle rig m with
  | (.error _, m) => enterAlarm rig m
  | (.ok (), m) =>
    { m with
      runState := if m.runState = .cycle then .idle else m.runState
      cycleStop := true }

def finishHold (rig : Rig H) (m : Machine H capacity) : Machine H capacity :=
  { (stopTicks rig m).setBusy false with cycleStop := true }

def applyStaged (rig : Rig H) (m : Machine H capacity) :
    Except LineError Unit × Machine H capacity :=
  match m.runtime.staged with
  | none => (.ok (), m)
  | some image =>
    let m := { m with runtime := { m.runtime with staged := none } }
    match m.write (rig.port.writeOutput image) with
    | (.error cause, m) => (.error cause, m)
    | (.ok (), m) =>
      (.ok (), { m with
        hardware := rig.port.timer.armPulseReset rig.settings.pulseWidth m.hardware })

def loadSegment (m : Machine H capacity) (s : Segment) : Machine H capacity :=
  { m with runtime := { m.runtime with segment := s, stepsRemaining := s.steps } }

/-- A block is loaded with its first segment: its direction lines are staged, all counters stand at
half the event count, and the ramp starts anew. -/
def loadBlock (rig : Rig H) (m : Machine H capacity) (b : ActiveBlock) : Machine H capacity :=
  let rates := (m.pipeline.blocks.get m.runtime.segment.slot).rates
  let seed : Int := (b.events >>> 1).toNat
  { m with
    runtime :=
      { m.runtime with
        block := b
        staged := some (b.directions ^^^ rig.settings.invertMask)
        counters := PerAxis.constant seed
        distance := rates.stepDistance.toNat
        ramp := Ramp.start rates.initial rig.settings.rampPeriod } }

def finishLoad (rig : Rig H) (m : Machine H capacity) : Machine H capacity :=
  let ramp :=
    if m.runtime.segment.decelerates then
      m.runtime.ramp.beginDeceleration rig.settings.rampPeriod
    else m.runtime.ramp
  { m with runtime := { m.runtime with ramp := ramp, load := .nothing } }

/-- One step event of the active block. Each axis draws its steps from its counter, and makes a step
when that takes the counter below zero; the event count is then added back. -/
def stepEvent (rig : Rig H) (m : Machine H capacity) : Machine H capacity :=
  let r := m.runtime
  let b := r.block
  let drawn (axis : Axis) : Int := r.counters.get axis - (b.steps.get axis).toNat
  let image := Axis.all.foldl
    (fun image axis => if drawn axis < 0 then image ||| Lines.step axis else image) b.directions
  let counters := PerAxis.tabulate fun axis =>
    if drawn axis < 0 then drawn axis + b.events.toNat else drawn axis
  let position := PerAxis.tabulate fun axis =>
    if drawn axis < 0 then
      if b.directions.contains (Lines.direction axis) then m.position.get axis - 1
      else m.position.get axis + 1
    else m.position.get axis
  let left := Saturating.sub r.stepsRemaining 1
  let done := left == 0
  let blockDone := done && r.segment.endsBlock
  { m with
    position := position
    planner := if blockDone then m.planner.discard else m.planner
    pipeline := if done then { m.pipeline with segments := m.pipeline.segments.advance } else m.pipeline
    runtime :=
      { r with
        counters := counters
        stepsRemaining := left
        load := if blockDone then .block else if done then .segment else r.load
        staged := some (image ^^^ rig.settings.invertMask) } }

/-- The ramp and the distance move on by one tick. In the tick that loads a block no step event
takes place, so that its direction lines go out first. -/
def advance (rig : Rig H) (m : Machine H capacity) (loadsBlock : Bool) : Machine H capacity :=
  let rates := (m.pipeline.blocks.get m.runtime.segment.slot).rates
  let ramp := m.runtime.ramp.update rates.nominal rates.delta rig.settings.rampPeriod
  let distance := m.runtime.distance - (ramp.ratePerTick rig.settings.minimumStepRate).toNat
  let moved (distance : Int) : Machine H capacity :=
    { m with runtime := { m.runtime with ramp := ramp, distance := distance } }
  if distance < 0 ∧ ¬ loadsBlock then
    (stepEvent rig (moved (distance + rates.stepDistance.toNat))).setBusy false
  else (moved distance).setBusy false

def execute (rig : Rig H) (m : Machine H capacity) : Machine H capacity :=
  if m.runtime.load = .nothing then advance rig m false
  else if m.runState = .hold then finishHold rig m
  else
    match m.pipeline.segments.peek? with
    | none => finishCycle rig m
    | some s =>
      let loadsBlock := m.runtime.load == .block
      let m := loadSegment m s
      if loadsBlock then
        match m.planner.current? with
        | none => enterAlarm rig m
        | some b => advance rig (finishLoad rig (loadBlock rig m b.active)) true
      else advance rig (finishLoad rig m) false

/-- One period of the real-time tick. A tick that finds another under way does nothing. -/
def tick (rig : Rig H) (m : Machine H capacity) : Machine H capacity :=
  if m.runtime.busy then m
  else
    match applyStaged rig m with
    | (.error _, m) => enterAlarm rig m
    | (.ok (), m) => execute rig (m.setBusy true)

end StepPulse.Machine
