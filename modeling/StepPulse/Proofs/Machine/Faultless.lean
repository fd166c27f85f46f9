import StepPulse.Proofs.Machine.Calls

namespace StepPulse

open Machine

variable {H : Type} {capacity : Nat}

def Machine.pending (inverted : Lines) (m : Machine H capacity) (axis : Axis) : Nat :=
  match m.runtime.staged with
  | none => 0
  | some image => if (image ^^^ inverted).contains (Lines.step axis) then 1 else 0

namespace Journal

theorem pulses_output (journal : Journal) (image inverted : Lines) (axis : Axis) :
    pulses (⟨.output image, none⟩ :: journal) inverted axis =
      pulses journal inverted axis +
        if (image ^^^ inverted).contains (Lines.step axis) then 1 else 0 :=
  List.countP_cons

end Journal

structure Noted (m m' : Machine (Watched H) capacity) : Prop where
  still : Still m m'
  runState : m'.runState = m.runState
  cycleStop : m'.cycleStop = m.cycleStop
  pulses : ∀ inverted axis,
    m'.journal.pulses inverted axis = m.journal.pulses inverted axis

structure Applied (inverted : Lines) (m m' : Machine (Watched H) capacity) : Prop where
  still : Still m m'
  staged : m'.runtime.staged = none
  busy : m'.runtime.busy = m.runtime.busy
  runState : m'.runState = m.runState
  cycleStop : m'.cycleStop = m.cycleStop
  ticking : m'.ticking = m.ticking
  pulses : ∀ axis, m'.journal.pulses inverted axis =
    m.journal.pulses inverted axis + m.pending inverted axis

namespace Rig.Faultless

variable {rig : Rig H} (faultless : rig.Faultless) (m : Machine (Watched H) capacity)

include faultless

theorem applyStaged_after {image : Lines} (staged : m.runtime.staged = some image) :
    ∃ hardware, Machine.applyStaged rig.watched m = (.ok (), m.unstaged.after
      [⟨.armPulseReset rig.settings.pulseWidth, none⟩, ⟨.output image, none⟩] hardware) := by
  generalize applied : Machine.applyStaged rig.watched m = r
  cases applies applied with
  | nothing unstaged =>
      rw [staged] at unstaged
      contradiction
  | refused _ refused =>
      rw [faultless.output] at refused
      contradiction
  | taken other =>
      obtain rfl := Option.some.inj (staged.symm.trans other)
      exact ⟨_, rfl⟩

theorem applyStaged (inverted : Lines) :
    ∃ m', applyStaged rig.watched m = (.ok (), m') ∧ Applied inverted m m' := by
  cases staged : m.runtime.staged with
  | none =>
      refine ⟨m, applyStaged_none staged, Still.refl m, staged, rfl, rfl, rfl, rfl, fun axis => ?_⟩
      rw [pending, staged]
      rfl
  | some image =>
      obtain ⟨hardware, applied⟩ := faultless.applyStaged_after m staged
      refine ⟨_, applied, ⟨rfl, rfl, rfl, rfl⟩, rfl, rfl, rfl, rfl, rfl, fun axis => ?_⟩
      rw [pending, staged]
      exact Journal.pulses_output m.hardware.journal image inverted axis

theorem onPulseReset_after : ∃ hardware, m.onPulseReset rig.watched =
    m.after [⟨.stepLines rig.settings.invertMask.stepLines, none⟩] hardware := by
  have ends := endsPulse rig m
  generalize m.onPulseReset rig.watched = m' at ends
  cases ends with
  | taken => exact ⟨_, rfl⟩
  | refused refused =>
      rw [faultless.stepLines] at refused
      contradiction

theorem onPulseReset :
    Noted m (m.onPulseReset rig.watched) ∧
      (m.onPulseReset rig.watched).ticking = m.ticking ∧
      (m.onPulseReset rig.watched).runtime = m.runtime := by
  obtain ⟨hardware, ended⟩ := faultless.onPulseReset_after m
  rw [ended]
  exact ⟨⟨⟨rfl, rfl, rfl, rfl⟩, rfl, rfl, fun _ _ => rfl⟩, rfl, rfl⟩

theorem finishCycle_after : ∃ calls hardware, Idling rig m.runState (.ok ()) calls ∧
    Machine.finishCycle rig.watched m =
      (m.rested (if m.runState = .cycle then .idle else m.runState) true).after calls hardware := by
  have finishes := finishes rig m
  generalize Machine.finishCycle rig.watched m = m' at finishes
  cases finishes with
  | ended idling => exact ⟨_, _, idling, rfl⟩
  | alarmed refused =>
      rw [faultless.disable] at refused
      contradiction

theorem finishCycle (cycle : m.runState = .cycle) :
    Still m (finishCycle rig.watched m) ∧ (Machine.finishCycle rig.watched m).runState = .idle ∧
      (Machine.finishCycle rig.watched m).cycleStop = true ∧
      (Machine.finishCycle rig.watched m).ticking = false ∧
      ∀ inverted axis, (Machine.finishCycle rig.watched m).journal.pulses inverted axis =
        m.journal.pulses inverted axis := by
  obtain ⟨calls, hardware, idling, finished⟩ := faultless.finishCycle_after m
  rw [finished, if_pos cycle]
  cases idling with
  | kept => exact ⟨⟨rfl, rfl, rfl, rfl⟩, rfl, rfl, rfl, fun _ _ => rfl⟩
  | released => exact ⟨⟨rfl, rfl, rfl, rfl⟩, rfl, rfl, rfl, fun _ _ => rfl⟩

theorem cycleStart (queued : m.runState = .queued) :
    ∃ m', m.cycleStart rig.watched = (.ok (), m') ∧ Still m.requestBlock m' ∧
      m'.runtime.staged = none ∧ m'.runtime.busy = m.runtime.busy ∧ m'.runState = .cycle ∧
      m'.ticking = true ∧ ∀ inverted axis,
        m'.journal.pulses inverted axis = m.journal.pulses inverted axis := by
  have starts := starts rig m
  generalize m.cycleStart rig.watched = r at starts
  cases starts with
  | woken _ wakes =>
      cases wakes with
      | refused refused =>
          rw [faultless.disable] at refused
          contradiction
      | started => exact ⟨_, rfl, ⟨rfl, rfl, rfl, rfl⟩, rfl, rfl, rfl, rfl, fun _ _ => rfl⟩
      | energized rest => exact absurd rfl rest
  | resumed hold =>
      rw [queued] at hold
      contradiction
  | unheeded unqueued => exact absurd queued unqueued

end Rig.Faultless

end StepPulse
