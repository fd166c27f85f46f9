import StepPulse.Settings.Basic

/-! Hardware with state `H`, driven through a port and a delay that can refuse a write. -/

namespace StepPulse

structure Timer (H : Type) where
  start : H → H
  stop : H → H
  armPulseReset : Microseconds → H → H

abbrev Write (H : Type) := H → Except LineError Unit × H

structure Port (H : Type) where
  writeOutput : Lines → Write H
  writeStepLines : Lines → Write H
  writeDisable : Bool → Write H
  timer : Timer H

structure Delay (H : Type) where
  wait : Milliseconds → H → H

structure PinBank (P : Type) where
  step : PerAxis P
  direction : PerAxis P
  disable : P
  deriving Repr

namespace PinBank

variable {P H : Type}

def writeLevels (drive : P → Bool → H → Bool × H) (pins : PerAxis P) (level : Axis → Bool)
    (cause : LineError) : List Axis → Write H
  | [], h => (.ok (), h)
  | axis :: rest, h =>
    match drive (pins.get axis) (level axis) h with
    | (true, h) => writeLevels drive pins level cause rest h
    | (false, h) => (.error cause, h)

def writeStepLines (bank : PinBank P) (drive : P → Bool → H → Bool × H) (lines : Lines) : Write H :=
  writeLevels drive bank.step (fun axis => lines.contains (Lines.step axis)) .step Axis.all

/-- Direction lines come first, so that they are settled when a step line rises. -/
def writeOutput (bank : PinBank P) (drive : P → Bool → H → Bool × H) (lines : Lines) : Write H :=
  fun h =>
    match writeLevels drive bank.direction (fun axis => lines.contains (Lines.direction axis))
        .direction Axis.all h with
    | (.ok (), h) => bank.writeStepLines drive lines h
    | (.error cause, h) => (.error cause, h)

def writeDisable (bank : PinBank P) (drive : P → Bool → H → Bool × H) (level : Bool) : Write H :=
  fun h =>
    match drive bank.disable level h with
    | (true, h) => (.ok (), h)
    | (false, h) => (.error .disable, h)

def port (bank : PinBank P) (drive : P → Bool → H → Bool × H) (timer : Timer H) : Port H :=
  { writeOutput := bank.writeOutput drive
    writeStepLines := bank.writeStepLines drive
    writeDisable := bank.writeDisable drive
    timer := timer }

end PinBank

end StepPulse
