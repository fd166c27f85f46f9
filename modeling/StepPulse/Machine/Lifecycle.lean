import StepPulse.Machine.Assembly

namespace StepPulse.Machine

variable {H : Type} {capacity : Nat}

/-- Energize the drivers and, in a cycle, start ticking with a block load due. -/
def wakeUp (rig : Rig H) (m : Machine H capacity) : Except LineError Unit × Machine H capacity :=
  match m.write (rig.port.writeDisable rig.settings.enableLevel) with
  | (.error cause, m) => (.error cause, m)
  | (.ok (), m) =>
    if m.runState = .cycle then
      let runtime := { m.runtime with staged := none, load := .block }
      (.ok (), startTicks rig { m with runtime := runtime })
    else (.ok (), m)

/-- Stop ticking and, unless the settings keep them energized, release the drivers after the idle
lock time. An alarm always releases them. -/
def goIdle (rig : Rig H) (m : Machine H capacity) : Except LineError Unit × Machine H capacity :=
  let m := (stopTicks rig m).setBusy false
  if rig.settings.keepEnabledWhenIdle ∧ m.runState ≠ .alarm then (.ok (), m)
  else
    let m := { m with hardware := rig.delay.wait rig.settings.idleLockTime m.hardware }
    m.write (rig.port.writeDisable rig.settings.disableLevel)

def init (rig : Rig H) (m : Machine H capacity) : Except LineError Unit × Machine H capacity :=
  match m.reset.write (rig.port.writeOutput rig.settings.invertMask) with
  | (.error cause, m) => (.error cause, m)
  | (.ok (), m) =>
    match wakeUp rig m with
    | (.error cause, m) => (.error cause, m)
    | (.ok (), m) => goIdle rig m

def queue (m : Machine H capacity) : Machine H capacity :=
  if m.runState = .idle then { m with runState := .queued } else m

def cycleStart (rig : Rig H) (m : Machine H capacity) :
    Except LineError Unit × Machine H capacity :=
  match m.runState with
  | .queued => wakeUp rig { m with runState := .cycle }
  | .hold => (.ok (), startTicks rig { m with runState := .cycle })
  | _ => (.ok (), m)

/-- Ask for a hold, which takes effect at the end of the segment in execution. -/
def feedHold (m : Machine H capacity) : Machine H capacity :=
  if m.runState = .cycle then { m with runState := .hold } else m

def acknowledge (m : Machine H capacity) : Machine H capacity := { m with runState := .idle }

def alarm (rig : Rig H) (m : Machine H capacity) : Except LineError Unit × Machine H capacity :=
  goIdle rig { m with runState := .alarm }

def prepareSegments (rig : Rig H) (m : Machine H capacity) :
    Except ClampFault (Nat × Machine H capacity) :=
  match m.pipeline.prepare m.planner.source rig.sizing rig.settings with
  | .error fault => .error fault
  | .ok (pipeline, emitted) => .ok (emitted, { m with pipeline := pipeline })

def takeCycleStop (m : Machine H capacity) : Bool × Machine H capacity :=
  (m.cycleStop, { m with cycleStop := false })

end StepPulse.Machine
