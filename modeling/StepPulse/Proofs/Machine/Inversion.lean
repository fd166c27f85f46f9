import StepPulse.Proofs.Machine.Provenance
import StepPulse.Proofs.Machine.Twins

/-! The inversion of lines is electrical and no more. -/

namespace StepPulse

variable {H H' : Type} {capacity : Nat}

structure Calls where
  output : Nat := 0
  stepLines : Nat := 0
  disable : Nat := 0
  timer : Nat := 0
  deriving DecidableEq, Repr

namespace Calls

def withOutput (calls : Calls) : Calls := { calls with output := calls.output + 1 }

def withStepLines (calls : Calls) : Calls := { calls with stepLines := calls.stepLines + 1 }

def withDisable (calls : Calls) : Calls := { calls with disable := calls.disable + 1 }

def withTimer (calls : Calls) : Calls := { calls with timer := calls.timer + 1 }

end Calls

/-- Which writes are refused, and why, by the calls that came before. -/
structure Script where
  output : Calls → Except LineError Unit
  stepLines : Calls → Except LineError Unit
  disable : Calls → Except LineError Unit

def Scripted (calls : H → Calls) (answer : Calls → Except LineError Unit) (count : Calls → Calls)
    (w : Write H) : Prop :=
  ∀ h, (w h).1 = answer (calls h) ∧ calls (w h).2 = count (calls h)

/-- The port of a rig refuses what the script says, whatever is to be written. -/
structure Rig.Follows (script : Script) (calls : H → Calls) (rig : Rig H) : Prop where
  output : ∀ image, Scripted calls script.output Calls.withOutput (rig.port.writeOutput image)
  stepLines : ∀ image,
    Scripted calls script.stepLines Calls.withStepLines (rig.port.writeStepLines image)
  disable : ∀ level, Scripted calls script.disable Calls.withDisable (rig.port.writeDisable level)
  start : ∀ h, calls (rig.port.timer.start h) = (calls h).withTimer
  stop : ∀ h, calls (rig.port.timer.stop h) = (calls h).withTimer
  armPulseReset : ∀ width h, calls (rig.port.timer.armPulseReset width h) = (calls h).withTimer
  wait : ∀ time h, calls (rig.delay.wait time h) = calls h

def Call.inverted (mask : Lines) : Call → Call
  | .output image => .output (image ^^^ mask)
  | .stepLines image => .stepLines (image ^^^ mask.stepLines)
  | call => call

def Entry.inverted (mask : Lines) (entry : Entry) : Entry :=
  { entry with call := entry.call.inverted mask }

def Journal.inverted (mask : Lines) (journal : Journal) : Journal :=
  journal.map (Entry.inverted mask)

/-- Ports that were called equally often, the one with what the other was called with, inverted. -/
structure Mirrored (mask : Lines) (calls : H → Calls) (calls' : H' → Calls) (w : Watched H)
    (w' : Watched H') : Prop where
  journal : w'.journal = w.journal.inverted mask
  calls : calls' w'.hardware = calls w.hardware

section Mirrored

variable {mask : Lines} {calls : H → Calls} {calls' : H' → Calls}

theorem echoes_attempt {answer : Calls → Except LineError Unit} {count : Calls → Calls}
    {w : Write H} {w' : Write H'} (call : Call) (scripted : Scripted calls answer count w)
    (scripted' : Scripted calls' answer count w') :
    Echoes (Mirrored mask calls calls') (Watched.attempt call w)
      (Watched.attempt (call.inverted mask) w') := by
  intro h h' mirrored
  have same : (w' h'.hardware).1 = (w h.hardware).1 := by
    rw [(scripted' _).1, (scripted _).1, mirrored.calls]
  refine ⟨same, ?_, ?_⟩
  · simp only [Watched.attempt, same, mirrored.journal]
    rfl
  · show calls' (w' h'.hardware).2 = calls (w h.hardware).2
    rw [(scripted' _).2, (scripted _).2, mirrored.calls]

theorem mirrored_note {act : H → H} {act' : H' → H'} {call : Call} {w : Watched H} {w' : Watched H'}
    (blind : call.inverted mask = call) (mirrored : Mirrored mask calls calls' w w')
    (counted : calls' (act' w'.hardware) = calls (act w.hardware)) :
    Mirrored mask calls calls' (Watched.note call act w) (Watched.note call act' w') := by
  constructor
  · simp only [Watched.note, mirrored.journal, Journal.inverted, List.map_cons, Entry.inverted,
      blind]
  · exact counted

def inversion (mask : Lines) (calls : H → Calls) (calls' : H' → Calls) :
    Likeness (Watched H) (Watched H') :=
  { mask := mask
    hardware := Mirrored mask calls calls'
    pipelines := fun p p' => p' = p ∧ p.segments.WellFormed }

theorem twins_watched {script : Script} {rig : Rig H} {rig' : Rig H'}
    (plain : rig.settings.invertMask = Lines.none)
    (settings : rig'.settings = { rig.settings with invertMask := mask })
    (sizes : ∀ b, rig'.sizing b rig'.settings = rig.sizing b rig.settings)
    (follows : rig.Follows script calls) (follows' : rig'.Follows script calls') :
    Rig.Twins (inversion mask calls calls') rig.watched rig'.watched := by
  have timed {act : H → H} {act' : H' → H'} (call : Call) (blind : call.inverted mask = call)
      (counts : ∀ h, calls (act h) = (calls h).withTimer)
      (counts' : ∀ h, calls' (act' h) = (calls' h).withTimer) {w : Watched H} {w' : Watched H'}
      (mirrored : Mirrored mask calls calls' w w') :
      Mirrored mask calls calls' (Watched.note call act w) (Watched.note call act' w') := by
    apply mirrored_note blind mirrored
    rw [counts, counts', mirrored.calls]
  constructor
  case settings =>
    show rig'.settings = { rig.settings with invertMask := rig.settings.invertMask ^^^ mask }
    rw [plain, Lines.none_xor]
    exact settings
  case sizes => exact sizes
  case unseen => exact Pipeline.unseen_eq _ _
  case output =>
    intro image
    exact echoes_attempt (.output image) (follows.output image) (follows'.output (image ^^^ mask))
  case stepLines =>
    intro image
    exact echoes_attempt (.stepLines image) (follows.stepLines image)
      (follows'.stepLines (image ^^^ mask.stepLines))
  case disable =>
    intro level
    exact echoes_attempt (.disable level) (follows.disable level) (follows'.disable level)
  case start => exact timed .startTicks rfl follows.start follows'.start
  case stop => exact timed .stopTicks rfl follows.stop follows'.stop
  case armPulseReset =>
    intro width
    exact timed (.armPulseReset width) rfl (follows.armPulseReset width)
      (follows'.armPulseReset width)
  case wait =>
    intro time w w' mirrored
    apply mirrored_note rfl mirrored
    rw [follows.wait, follows'.wait, mirrored.calls]

end Mirrored

/-- The second machine did what the first did, with its lines inverted by the mask. -/
structure Inverted (mask : Lines) (m : Machine (Watched H) capacity)
    (m' : Machine (Watched H') capacity) : Prop where
  journal : m'.journal = m.journal.inverted mask
  position : m'.position = m.position
  runtime : m'.runtime = { m.runtime with staged := m.runtime.staged.map (· ^^^ mask) }
  pipeline : m'.pipeline = m.pipeline
  planner : m'.planner = m.planner
  runState : m'.runState = m.runState
  cycleStop : m'.cycleStop = m.cycleStop

/-- A mask of inverted lines shows on the lines and nowhere else: two machines that differ in
nothing but the mask, on ports that refuse by the same script, answer alike whatever is asked of
them, and end in the same fault or alike. That a policy of sizes does not go by the mask is part of
differing in nothing else. -/
theorem inversion_is_electrical {script : Script} {calls : H → Calls} {calls' : H' → Calls}
    {rig : Rig H} {rig' : Rig H'} {mask : Lines} (plain : rig.settings.invertMask = Lines.none)
    (settings : rig'.settings = { rig.settings with invertMask := mask })
    (sizes : ∀ b, rig'.sizing b rig'.settings = rig.sizing b rig.settings)
    (follows : rig.Follows script calls) (follows' : rig'.Follows script calls') {hardware : H}
    {hardware' : H'} (level : calls' hardware' = calls hardware) (q : BlockQueue capacity)
    (ops : List Operation) :
    Concur (fun a b => b.1 = a.1 ∧ Inverted mask a.2 b.2)
      ((Machine.fresh { hardware := hardware } q).run rig.watched ops)
      ((Machine.fresh { hardware := hardware' } q).run rig'.watched ops) := by
  have rigs := twins_watched plain settings sizes follows follows'
  have twins : Machine.Twins (inversion mask calls calls')
      (Machine.fresh { hardware := hardware } q : Machine (Watched H) capacity)
      (Machine.fresh { hardware := hardware' } q) := by
    constructor
    case hardware => exact ⟨rfl, level⟩
    case pipeline => exact ⟨rfl, .clear _⟩
    case loaded => exact fun nothing => Load.noConfusion nothing
    all_goals rfl
  have ran := twins.run rigs ops
  generalize (Machine.fresh { hardware := hardware } q).run rig.watched ops = r at ran
  generalize (Machine.fresh { hardware := hardware' } q).run rig'.watched ops = r' at ran
  cases ran with
  | error fault => exact .error fault
  | ok replied =>
      obtain ⟨same, after⟩ := replied
      refine .ok ⟨same, ?_⟩
      exact
        { journal := after.hardware.journal
          position := after.position
          runtime := after.runtime
          pipeline := after.pipeline.1
          planner := after.planner
          runState := after.runState
          cycleStop := after.cycleStop }

def scriptedRig (script : Script) (settings : Settings) (sizing : Sizing) : Rig Calls :=
  { port :=
      { writeOutput := fun _ calls => (script.output calls, calls.withOutput)
        writeStepLines := fun _ calls => (script.stepLines calls, calls.withStepLines)
        writeDisable := fun _ calls => (script.disable calls, calls.withDisable)
        timer :=
          { start := Calls.withTimer, stop := Calls.withTimer
            armPulseReset := fun _ => Calls.withTimer } }
    delay := { wait := fun _ calls => calls }
    settings := settings
    sizing := sizing }

theorem follows_scriptedRig (script : Script) (settings : Settings) (sizing : Sizing) :
    (scriptedRig script settings sizing).Follows script id :=
  { output := fun _ _ => ⟨rfl, rfl⟩
    stepLines := fun _ _ => ⟨rfl, rfl⟩
    disable := fun _ _ => ⟨rfl, rfl⟩
    start := fun _ => rfl
    stop := fun _ => rfl
    armPulseReset := fun _ _ => rfl
    wait := fun _ _ => rfl }

def lapse : Script :=
  { output := fun calls => if calls.output = 2 then .error .step else .ok ()
    stepLines := fun _ => .ok ()
    disable := fun _ => .ok () }

def lapsingRig (mask : Lines) : Rig Calls :=
  scriptedRig lapse { sampleRig.settings with invertMask := mask } Sizing.fixed

def lapseStart : Machine (Watched Calls) 4 := Machine.fresh { hardware := {} } {}

def lapseRun : List Operation :=
  [.init, .pushBlock .sample, .prepareSegments, .queue, .cycleStart, .tick, .tick, .tick]

theorem inverted_into_alarm :
    (lapseStart.run (lapsingRig Lines.none).watched lapseRun).toOption.any (fun r =>
      r.2.runState == .alarm && r.2.journal.images.map Lines.bits == [16, 0]) = true ∧
    Concur (fun a b => b.1 = a.1 ∧ Inverted Lines.all a.2 b.2)
      (lapseStart.run (lapsingRig Lines.none).watched lapseRun)
      (lapseStart.run (lapsingRig Lines.all).watched lapseRun) := by
  have plain : (lapsingRig Lines.none).Follows lapse id := follows_scriptedRig _ _ _
  have masked : (lapsingRig Lines.all).Follows lapse id := follows_scriptedRig _ _ _
  have settings : (lapsingRig Lines.all).settings =
      { (lapsingRig Lines.none).settings with invertMask := Lines.all } := rfl
  refine ⟨by decide +kernel, ?_⟩
  exact inversion_is_electrical rfl settings (fun _ => rfl) plain masked rfl {} lapseRun

end StepPulse
