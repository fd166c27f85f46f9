import StepPulse.Machine.Tick

/-! Hardware that keeps a journal of its calls and their refusals, the latest first. -/

namespace StepPulse

inductive Call where
  | output (image : Lines)
  | stepLines (image : Lines)
  | disable (level : Bool)
  | startTicks
  | stopTicks
  | armPulseReset (width : Microseconds)
  | wait (time : Milliseconds)
  deriving DecidableEq, Repr

structure Entry where
  call : Call
  refusal : Option LineError := none
  deriving DecidableEq, Repr

abbrev Journal := List Entry

structure Watched (H : Type) where
  hardware : H
  journal : Journal := []
  deriving DecidableEq, Repr

namespace Journal

def ticking : Journal → Bool
  | [] => false
  | ⟨.startTicks, _⟩ :: _ => true
  | ⟨.stopTicks, _⟩ :: _ => false
  | _ :: earlier => ticking earlier

def disableLevel : Journal → Option Bool
  | [] => none
  | ⟨.disable level, none⟩ :: _ => some level
  | _ :: earlier => disableLevel earlier

def images (journal : Journal) : List Lines :=
  journal.filterMap fun
    | ⟨.output image, none⟩ => some image
    | _ => none

/-- How often the step line of an axis was written active, with the inversion of lines undone. -/
def pulses (journal : Journal) (inverted : Lines) (axis : Axis) : Nat :=
  (images journal).countP fun image => (image ^^^ inverted).contains (Lines.step axis)

def Clean (journal : Journal) : Prop := ∀ entry ∈ journal, entry.refusal = none

end Journal

namespace Watched

variable {H : Type}

def note (call : Call) (act : H → H) (w : Watched H) : Watched H :=
  { hardware := act w.hardware, journal := ⟨call, none⟩ :: w.journal }

def refusal : Except LineError Unit → Option LineError
  | .ok () => none
  | .error cause => some cause

def attempt (call : Call) (write : Write H) : Write (Watched H) := fun w =>
  let (result, hardware) := write w.hardware
  (result, { hardware := hardware, journal := ⟨call, refusal result⟩ :: w.journal })

end Watched

namespace Rig

variable {H : Type}

def watched (rig : Rig H) : Rig (Watched H) :=
  { port :=
      { writeOutput := fun image => Watched.attempt (.output image) (rig.port.writeOutput image)
        writeStepLines := fun image =>
          Watched.attempt (.stepLines image) (rig.port.writeStepLines image)
        writeDisable := fun level => Watched.attempt (.disable level) (rig.port.writeDisable level)
        timer :=
          { start := Watched.note .startTicks rig.port.timer.start
            stop := Watched.note .stopTicks rig.port.timer.stop
            armPulseReset := fun width =>
              Watched.note (.armPulseReset width) (rig.port.timer.armPulseReset width) } }
    delay := { wait := fun time => Watched.note (.wait time) (rig.delay.wait time) }
    settings := rig.settings
    sizing := rig.sizing }

structure Faultless (rig : Rig H) : Prop where
  output : ∀ image h, (rig.port.writeOutput image h).1 = .ok ()
  stepLines : ∀ image h, (rig.port.writeStepLines image h).1 = .ok ()
  disable : ∀ level h, (rig.port.writeDisable level h).1 = .ok ()

def bench (settings : Settings) (sizing : Sizing) : Rig Unit :=
  { port :=
      { writeOutput := fun _ h => (.ok (), h)
        writeStepLines := fun _ h => (.ok (), h)
        writeDisable := fun _ h => (.ok (), h)
        timer := { start := id, stop := id, armPulseReset := fun _ h => h } }
    delay := { wait := fun _ h => h }
    settings := settings
    sizing := sizing }

theorem faultless_bench (settings : Settings) (sizing : Sizing) :
    (bench settings sizing).Faultless :=
  { output := fun _ _ => rfl, stepLines := fun _ _ => rfl, disable := fun _ _ => rfl }

@[simp] theorem settings_watched (rig : Rig H) : rig.watched.settings = rig.settings := rfl

end Rig

namespace Machine

variable {H : Type} {capacity : Nat}

def journal (m : Machine (Watched H) capacity) : Journal := m.hardware.journal

def ticking (m : Machine (Watched H) capacity) : Bool := m.journal.ticking

def CallsOnly (allowed : Entry → Prop) (m m' : Machine (Watched H) capacity) : Prop :=
  ∃ calls, m'.journal = calls ++ m.journal ∧ ∀ entry ∈ calls, allowed entry

namespace CallsOnly

variable {allowed : Entry → Prop} {m m' m'' : Machine (Watched H) capacity}

theorem of_journal (same : m'.journal = m.journal) : CallsOnly allowed m m' := by
  refine ⟨[], same, ?_⟩
  intro entry member
  cases member

protected theorem refl (m : Machine (Watched H) capacity) : CallsOnly allowed m m := of_journal rfl

protected theorem trans (first : CallsOnly allowed m m') (second : CallsOnly allowed m' m'') :
    CallsOnly allowed m m'' := by
  obtain ⟨calls, journal, only⟩ := first
  obtain ⟨later, journal', only'⟩ := second
  refine ⟨later ++ calls, ?_, ?_⟩
  · rw [journal', journal, List.append_assoc]
  · intro entry member
    rcases List.mem_append.mp member with member | member
    · exact only' entry member
    · exact only entry member

theorem cons (entry : Entry) (permitted : allowed entry) (journal : m'.journal = entry :: m.journal) :
    CallsOnly allowed m m' := by
  refine ⟨[entry], journal, ?_⟩
  intro entry' member
  rw [List.mem_singleton.mp member]
  exact permitted

theorem suffix (made : CallsOnly allowed m m') : m.journal <:+ m'.journal := by
  obtain ⟨calls, journal, _⟩ := made
  exact ⟨calls, journal.symm⟩

end CallsOnly

end Machine

end StepPulse
