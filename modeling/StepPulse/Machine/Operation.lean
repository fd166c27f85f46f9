import StepPulse.Machine.Tick

/-! Everything that can be asked of a machine from outside, as data. -/

namespace StepPulse

inductive Operation where
  | init
  | reset
  | wakeUp
  | goIdle
  | queue
  | cycleStart
  | feedHold
  | acknowledge
  | alarm
  | prepareSegments
  | tick
  | pulseReset
  | takeCycleStop
  | setPosition (axis : Axis) (steps : Steps)
  | pushBlock (block : Block)
  | discardBlock
  | clearBlocks
  deriving DecidableEq, Repr

inductive Reply where
  | done
  | written
  | refused (cause : LineError)
  | emitted (segments : Nat)
  | stopped (bySelf : Bool)
  | numbered (number : UInt64)
  | rejected (cause : BlockError)
  deriving DecidableEq, Repr

def Reply.ofWrite : Except LineError Unit → Reply
  | .ok () => written
  | .error cause => refused cause

namespace Machine

variable {H : Type} {capacity : Nat}

def pushBlock (m : Machine H capacity) (b : Block) : Reply × Machine H capacity :=
  match m.planner.push b with
  | .ok (number, planner) => (.numbered number, { m with planner := planner })
  | .error cause => (.rejected cause, m)

def perform (rig : Rig H) (m : Machine H capacity) :
    Operation → Except ClampFault (Reply × Machine H capacity)
  | .init => .ok (answered (m.init rig))
  | .reset => .ok (.done, m.reset)
  | .wakeUp => .ok (answered (m.wakeUp rig))
  | .goIdle => .ok (answered (m.goIdle rig))
  | .queue => .ok (.done, m.queue)
  | .cycleStart => .ok (answered (m.cycleStart rig))
  | .feedHold => .ok (.done, m.feedHold)
  | .acknowledge => .ok (.done, m.acknowledge)
  | .alarm => .ok (answered (m.alarm rig))
  | .prepareSegments => (m.prepareSegments rig).map fun (emitted, m) => (.emitted emitted, m)
  | .tick => .ok (.done, m.tick rig)
  | .pulseReset => .ok (.done, m.onPulseReset rig)
  | .takeCycleStop => .ok (.stopped m.takeCycleStop.1, m.takeCycleStop.2)
  | .setPosition axis steps => .ok (.done, m.setPosition axis steps)
  | .pushBlock b => .ok (m.pushBlock b)
  | .discardBlock => .ok (.done, { m with planner := m.planner.discard })
  | .clearBlocks => .ok (.done, { m with planner := m.planner.clear })
where
  answered (r : Except LineError Unit × Machine H capacity) : Reply × Machine H capacity :=
    (Reply.ofWrite r.1, r.2)

/-- Operations one after the other, up to the first that finds bounds it cannot clamp between. -/
def run (rig : Rig H) (m : Machine H capacity) :
    List Operation → Except ClampFault (List Reply × Machine H capacity)
  | [] => .ok ([], m)
  | op :: ops =>
    match perform rig m op with
    | .error fault => .error fault
    | .ok (reply, m) =>
      match run rig m ops with
      | .error fault => .error fault
      | .ok (replies, m) => .ok (reply :: replies, m)

end Machine

end StepPulse
