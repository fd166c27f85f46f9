import StepPulse.Machine.Assembly
import StepPulse.Proofs.Machine.Travel
import StepPulse.Proofs.Machine.Twins

namespace StepPulse

variable {H : Type} {capacity : Nat}

def Rig.assembly (rig : Rig H) (planner : BlockQueue capacity) : Assembly H capacity :=
  { planner := some planner
    port := some rig.port
    delay := some rig.delay
    settings := rig.settings
    sizing := rig.sizing }

theorem Rig.build_assembly (rig : Rig H) (valid : rig.settings.check = .ok ())
    (planner : BlockQueue capacity) (hardware : H) :
    (rig.assembly planner).build hardware = .ok (rig, Machine.fresh hardware planner) := by
  simp only [Assembly.build, Rig.assembly, valid]

/-- What a machine shows of itself, with its hardware and the planner that it was given. -/
structure Observation (H : Type) (capacity : Nat) where
  hardware : H
  planner : BlockQueue capacity
  position : PerAxis Steps
  phase : RampPhase
  ratePerTick : UInt32
  stepsRemaining : UInt32
  segmentsQueued : Nat
  runState : RunState
  busy : Bool

namespace Machine

def observe (rig : Rig H) (m : Machine H capacity) : Observation H capacity :=
  { hardware := m.hardware
    planner := m.planner
    position := m.position
    phase := m.runtime.ramp.phase
    ratePerTick := m.ratePerTick rig
    stepsRemaining := m.runtime.stepsRemaining
    segmentsQueued := m.pipeline.segments.length
    runState := m.runState
    busy := m.runtime.busy }

def observations (rig : Rig H) (m : Machine H capacity) (ops : List Operation) :
    Except ClampFault (List Reply × Observation H capacity) :=
  (m.run rig ops).map fun (replies, m) => (replies, m.observe rig)

/-- A machine that stands where another stands, in its run state and with its notice. -/
def inPlaceOf (old new : Machine H capacity) : Machine H capacity :=
  { new with position := old.position, runState := old.runState, cycleStop := old.cycleStop }

end Machine

def renewal (H : Type) : Likeness H H :=
  { mask := Lines.none, hardware := Eq, pipelines := Pipeline.Agrees }

theorem Rig.twins_self (rig : Rig H) : Rig.Twins (renewal H) rig rig := by
  have echoes {w w' : Write H} (same : w' = w) : Echoes Eq w w' := by
    rintro h _ rfl
    rw [same]
    exact ⟨rfl, rfl⟩
  have bare (image : Lines) : image ^^^ (renewal H).mask = image := Lines.xor_none image
  have dark : (renewal H).mask.stepLines = Lines.none := Lines.stepLines_none
  constructor
  case settings => rw [bare]
  case sizes => exact fun _ => rfl
  case unseen => exact Pipeline.unseen_agrees _ _
  case output => exact fun image => echoes (by rw [bare])
  case stepLines => exact fun image => echoes (by rw [dark, Lines.xor_none])
  case disable => exact fun level => echoes rfl
  case start => exact congrArg _
  case stop => exact congrArg _
  case armPulseReset => exact fun _ => congrArg _
  case wait => exact fun _ => congrArg _

theorem Runtime.inverted_none (r : Runtime) : r.inverted Lines.none = r := by
  have bare : (· ^^^ Lines.none) = id := funext Lines.xor_none
  rw [Runtime.inverted, bare, Option.map_id_fun]
  rfl

namespace Machine

variable {rig : Rig H} {m m' : Machine H capacity}

theorem Twins.observe (twins : Twins (renewal H) m m') : m'.observe rig = m.observe rig := by
  have runtime : m'.runtime = m.runtime := twins.runtime.trans m.runtime.inverted_none
  have length := congrArg List.length twins.pipeline.queued
  rw [SegmentRing.length_toList, SegmentRing.length_toList] at length
  simp only [Machine.observe, ratePerTick, runtime, length, twins.planner, twins.position,
    twins.runState, show m'.hardware = m.hardware from twins.hardware.symm]

theorem Twins.observations (twins : Twins (renewal H) m m') (ops : List Operation) :
    m'.observations rig ops = m.observations rig ops := by
  have ran := twins.run rig.twins_self ops
  rw [Machine.observations, Machine.observations]
  generalize m.run rig ops = r at ran
  generalize m'.run rig ops = r' at ran
  cases ran with
  | error fault => rfl
  | @ok a b replied =>
      simp only [Except.map, replied.1, replied.2.observe]

theorem twins_reset (m : Machine H capacity) :
    Twins (renewal H) m.reset (m.reset.inPlaceOf (Machine.fresh m.hardware m.planner)) := by
  constructor
  case hardware => rfl
  case pipeline => exact .of_reset m.pipeline {} m.planner.tail
  case loaded => exact fun nothing => Load.noConfusion nothing
  all_goals rfl

end Machine

/-- After a reset, wherever the machine has come from, every list of operations is answered as by a
machine newly built on its planner and its hardware: with the same replies, the same calls and the
same that can be observed. Position, run state and the notice of a stop are what a reset keeps, and
so they are copied. -/
theorem reset_renews (rig : Rig H) (valid : rig.settings.check = .ok ())
    (m : Machine (Watched H) capacity) :
    ∃ new : Machine (Watched H) capacity,
      (rig.watched.assembly m.planner).build m.hardware = .ok (rig.watched, new) ∧
      ∀ ops : List Operation,
        (m.reset.inPlaceOf new).observations rig.watched ops =
          m.reset.observations rig.watched ops := by
  refine ⟨Machine.fresh m.hardware m.planner, ?_, ?_⟩
  · exact rig.watched.build_assembly valid m.planner m.hardware
  · exact m.twins_reset.observations

def adriftRun : List Operation :=
  [.pushBlock .sample, .pushBlock .sample, .prepareSegments, .queue, .cycleStart, .tick, .tick, .tick,
    .clearBlocks, .tick, .tick, .tick, .tick, .tick]

theorem renewed_while_adrift :
    ∃ m : Machine (Watched Unit) 4,
      Machine.Reaches sampleRig.watched sampleStart m ∧
      (m.runState == .alarm && m.planner.isEmpty && m.pipeline.segments.length == 2) = true ∧
      ∃ new : Machine (Watched Unit) 4,
        (sampleRig.watched.assembly m.planner).build m.hardware = .ok (sampleRig.watched, new) ∧
        ∀ ops : List Operation,
          (m.reset.inPlaceOf new).observations sampleRig.watched ops =
            m.reset.observations sampleRig.watched ops := by
  obtain ⟨m, _, reached, shown⟩ := Machine.exists_unrestricted sampleRig.watched Machine.unrecorded
    sampleStart () adriftRun
    (fun r => r.1.runState == .alarm && r.1.planner.isEmpty && r.1.pipeline.segments.length == 2)
    (by decide +kernel)
  exact ⟨m, reached, shown, reset_renews sampleRig (by rfl) m⟩

end StepPulse
