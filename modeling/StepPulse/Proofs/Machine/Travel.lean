import Mathlib.Algebra.Ring.Int.Defs
import StepPulse.Proofs.Lines
import StepPulse.Proofs.Machine.Calls
import StepPulse.Proofs.Machine.Provenance

/-!
The position against the pulses. A step is counted in the position when it is staged, and its pulse
goes out one tick later, so that between the two the position is ahead by the step that is staged.
Some operations discard a staged image; a step in it has been counted and is never made. What is
lost in this way is kept as an account, and with it the position is settled at all times, in any
order of operations and with any refusals.
-/

namespace StepPulse

open Machine

variable {H : Type} {capacity : Nat} {rig : Rig H}

def Lines.stepOf (image : Lines) (axis : Axis) : Int :=
  if image.contains (Lines.step axis) then
    if image.contains (Lines.direction axis) then -1 else 1
  else 0

def Journal.travel (journal : Journal) (inverted : Lines) (axis : Axis) : Int :=
  (journal.images.map fun image => (image ^^^ inverted).stepOf axis).sum

def Operation.keepsPosition : Operation → Bool
  | .setPosition _ _ => false
  | _ => true

namespace Machine

def stagedStep (inverted : Lines) (m : Machine H capacity) (axis : Axis) : Int :=
  match m.runtime.staged with
  | none => 0
  | some image => (image ^^^ inverted).stepOf axis

/-- Whether an operation drops the staged image: a restart; a wake-up in a cycle, also the one that
starts it; and a tick whose write is refused, since the image is not written again. -/
def discards (rig : Rig H) (m : Machine (Watched H) capacity) : Operation → Bool
  | .init => true
  | .reset => true
  | .wakeUp => m.runState == .cycle && (m.wakeUp rig.watched).1.isOk
  | .cycleStart => m.runState == .queued && (m.cycleStart rig.watched).1.isOk
  | .tick => !m.runtime.busy && !(applyStaged rig.watched m).1.isOk
  | _ => false

/-- The steps that were counted and then discarded. -/
def lose (rig : Rig H) : Recorder (Watched H) capacity (Axis → Int) := fun m op _ lost axis =>
  lost axis + if m.discards rig op then m.stagedStep rig.settings.invertMask axis else 0

def unplaced : Rule H capacity := fun _ op => op.keepsPosition = true

def keptBy (rig : Rig H) (m : Machine (Watched H) capacity) (op : Operation) :
    Machine (Watched H) capacity :=
  if m.discards rig op then m.unstaged else m

def Unpulsed (m : Machine H capacity) : Prop :=
  ∀ axis, m.runtime.block.directions.contains (Lines.step axis) = false

end Machine

theorem Machine.keptBy_of_discards {m : Machine (Watched H) capacity} {op : Operation}
    (discards : m.discards rig op = true) : m.keptBy rig op = m.unstaged := if_pos discards

theorem Machine.keptBy_of_keeps {m : Machine (Watched H) capacity} {op : Operation}
    (keeps : m.discards rig op = false) : m.keptBy rig op = m :=
  if_neg (Bool.eq_false_iff.mp keeps)

theorem Machine.unpulsed_reset (m : Machine H capacity) : m.reset.Unpulsed := by
  intro axis
  show Lines.none.contains (Lines.step axis) = false
  rw [Lines.contains_step]
  exact Nat.zero_testBit _

theorem Lines.stepOf_of_unpulsed {image : Lines} {axis : Axis}
    (unpulsed : image.contains (Lines.step axis) = false) : image.stepOf axis = 0 := by
  rw [stepOf, unpulsed]
  rfl

theorem Lines.stepOf_xor_self (image : Lines) (axis : Axis) : (image ^^^ image).stepOf axis = 0 :=
  stepOf_of_unpulsed (contains_step_xor_self image axis)

theorem Journal.travel_output (journal : Journal) (image inverted : Lines) (axis : Axis) :
    travel (⟨.output image, none⟩ :: journal) inverted axis =
      (image ^^^ inverted).stepOf axis + travel journal inverted axis := rfl

theorem Machine.stagedStep_of_none {inverted : Lines} {m : Machine H capacity}
    (staged : m.runtime.staged = none) (axis : Axis) : m.stagedStep inverted axis = 0 := by
  rw [stagedStep, staged]

theorem Machine.stagedStep_of_some {inverted image : Lines} {m : Machine H capacity}
    (staged : m.runtime.staged = some (image ^^^ inverted)) (axis : Axis) :
    m.stagedStep inverted axis = image.stepOf axis := by
  rw [stagedStep, staged]
  exact congrArg (Lines.stepOf · axis) (Lines.xor_xor image inverted)

/-- Nothing is counted or staged, and no step goes out. -/
structure Silent (inverted : Lines) (m m' : Machine (Watched H) capacity) : Prop where
  position : m'.position = m.position
  staged : m'.runtime.staged = m.runtime.staged
  unpulsed : m.Unpulsed → m'.Unpulsed
  travel : ∀ axis, m'.journal.travel inverted axis = m.journal.travel inverted axis

namespace Silent

variable {inverted : Lines} {m m' m'' : Machine (Watched H) capacity}

protected theorem refl (m : Machine (Watched H) capacity) : Silent inverted m m :=
  ⟨rfl, rfl, id, fun _ => rfl⟩

protected theorem trans (first : Silent inverted m m') (second : Silent inverted m' m'') :
    Silent inverted m m'' :=
  { position := second.position.trans first.position
    staged := second.staged.trans first.staged
    unpulsed := fun unpulsed => second.unpulsed (first.unpulsed unpulsed)
    travel := fun axis => (second.travel axis).trans (first.travel axis) }

end Silent

theorem Machine.Rests.silent {inverted : Lines} {m m' : Machine (Watched H) capacity}
    {runState : RunState} {cycleStop : Bool} (rests : Rests rig m runState cycleStop m') :
    Silent inverted m m' := by
  cases rests with
  | after halting => cases halting <;> exact ⟨rfl, rfl, id, fun _ => rfl⟩

theorem Machine.EndsPulse.silent {inverted : Lines} {m m' : Machine (Watched H) capacity}
    (ends : EndsPulse rig m m') : Silent inverted m m' := by
  cases ends <;> exact ⟨rfl, rfl, id, fun _ => rfl⟩

section Calls

variable {inverted : Lines} (rig) (m : Machine (Watched H) capacity)

theorem silent_wakeUp : Silent inverted (m.keptBy rig .wakeUp) (m.wakeUp rig.watched).2 := by
  have drops : m.discards rig .wakeUp =
      (m.runState == .cycle && (m.wakeUp rig.watched).1.isOk) := rfl
  have wakes := wakes rig m
  rw [keptBy, drops]
  generalize m.wakeUp rig.watched = r at wakes ⊢
  cases wakes with
  | refused => cases m.runState == .cycle <;> exact ⟨rfl, rfl, id, fun _ => rfl⟩
  | started cycle =>
      rw [cycle]
      exact ⟨rfl, rfl, id, fun _ => rfl⟩
  | energized rest =>
      rw [beq_eq_false_iff_ne.mpr rest]
      exact ⟨rfl, rfl, id, fun _ => rfl⟩

theorem silent_cycleStart :
    Silent inverted (m.keptBy rig .cycleStart) (m.cycleStart rig.watched).2 := by
  have drops : m.discards rig .cycleStart =
      (m.runState == .queued && (m.cycleStart rig.watched).1.isOk) := rfl
  have starts := starts rig m
  rw [keptBy, drops]
  generalize m.cycleStart rig.watched = r at starts ⊢
  cases starts with
  | woken queued wakes =>
      rw [queued]
      cases wakes with
      | refused => exact ⟨rfl, rfl, id, fun _ => rfl⟩
      | started => exact ⟨rfl, rfl, id, fun _ => rfl⟩
      | energized other => exact absurd rfl other
  | resumed hold =>
      rw [hold]
      exact ⟨rfl, rfl, id, fun _ => rfl⟩
  | unheeded other =>
      rw [beq_eq_false_iff_ne.mpr other]
      exact Silent.refl m

theorem silent_reset : Silent inverted (m.keptBy rig .reset) m.reset :=
  { position := rfl
    staged := rfl
    unpulsed := fun _ => unpulsed_reset m
    travel := fun _ => rfl }

theorem travel_parked (journal : Journal) (inverted : Lines) (axis : Axis) :
    Journal.travel (⟨.output inverted, none⟩ :: journal) inverted axis =
      journal.travel inverted axis := by
  rw [Journal.travel_output, Lines.stepOf_xor_self, Int.zero_add]

theorem silent_init :
    Silent rig.settings.invertMask (m.keptBy rig .init) (m.init rig.watched).2 := by
  have inits := inits rig m
  generalize m.init rig.watched = r at inits
  have parked := travel_parked m.journal rig.settings.invertMask
  apply (silent_reset rig m).trans
  cases inits with
  | refused => exact ⟨rfl, rfl, id, fun _ => rfl⟩
  | unwoken => exact ⟨rfl, rfl, id, parked⟩
  | started _ rests =>
      refine Silent.trans ?_ rests.silent
      exact ⟨rfl, rfl, id, parked⟩
  | rested _ rests =>
      refine Silent.trans ?_ rests.silent
      exact ⟨rfl, rfl, id, parked⟩

theorem silent_refused {m m₀ : Machine (Watched H) capacity} {cause : LineError}
    (refused : applyStaged rig.watched m = (.error cause, m₀)) : Silent inverted m.unstaged m₀ := by
  cases applies refused with
  | refused => exact ⟨rfl, rfl, id, fun _ => rfl⟩

end Calls

theorem perform_silent {m m' : Machine (Watched H) capacity} {op : Operation} {reply : Reply}
    (keeps : op.keepsPosition = true) (notTicking : op ≠ .tick)
    (performed : m.perform rig.watched op = .ok (reply, m')) :
    Silent rig.settings.invertMask (m.keptBy rig op) m' := by
  cases performs performed with
  | init => exact silent_init rig m
  | reset => exact silent_reset rig m
  | wakeUp => exact silent_wakeUp rig m
  | cycleStart => exact silent_cycleStart rig m
  | goIdle => exact (goIdle_rests rig m).silent
  | alarm => exact (alarm_rests rig m).silent
  | pulseReset => exact (endsPulse rig m).silent
  | tick => exact absurd rfl notTicking
  | setPosition => contradiction
  | _ => exact ⟨rfl, rfl, id, fun _ => rfl⟩

def Machine.nextImage (m : Machine H capacity) : Lines :=
  Lines.addSteps
    (fun axis => m.runtime.counters.get axis - (m.runtime.block.steps.get axis).toNat < 0)
    Axis.all m.runtime.block.directions

theorem staged_eq_nextImage (rig : Rig H) (m : Machine H capacity) :
    (stepEvent rig m).runtime.staged = some (m.nextImage ^^^ rig.settings.invertMask) := rfl

theorem stepOf_nextImage {m : Machine H capacity} (unpulsed : m.Unpulsed) (axis : Axis) :
    m.nextImage.stepOf axis =
      if m.runtime.counters.get axis - (m.runtime.block.steps.get axis).toNat < 0 then
        if m.runtime.block.directions.contains (Lines.direction axis) then -1 else 1
      else 0 := by
  have steps : m.nextImage.contains (Lines.step axis) = decide
      (m.runtime.counters.get axis - (m.runtime.block.steps.get axis).toNat < 0) := by
    rw [nextImage, Lines.contains_step_addSteps, unpulsed axis, Bool.false_or]
    simp
  have sense : m.nextImage.contains (Lines.direction axis) =
      m.runtime.block.directions.contains (Lines.direction axis) :=
    Lines.contains_direction_addSteps _ _ _ axis
  rw [Lines.stepOf, steps, sense]
  simp only [decide_eq_true_eq]

theorem position_stepEvent_eq (rig : Rig H) {m : Machine H capacity} (unpulsed : m.Unpulsed)
    (axis : Axis) :
    (stepEvent rig m).position.get axis = m.position.get axis + m.nextImage.stepOf axis := by
  rw [stepOf_nextImage unpulsed axis]
  show (PerAxis.tabulate _).get axis = _
  rw [PerAxis.get_tabulate]
  by_cases due : m.runtime.counters.get axis - (m.runtime.block.steps.get axis).toNat < 0
  · rw [if_pos due, if_pos due]
    split
    · exact Int.sub_eq_add_neg
    · rfl
  · rw [if_neg due, if_neg due]
    exact (Int.add_zero _).symm

/-- The position is the steps that went out, the step that is staged and the steps that were
lost. -/
structure Settled (inverted : Lines) (lost : Axis → Int) (m : Machine (Watched H) capacity) :
    Prop where
  unpulsed : m.Unpulsed
  position : ∀ axis, m.position.get axis =
    m.journal.travel inverted axis + m.stagedStep inverted axis + lost axis

namespace Settled

variable {inverted : Lines} {lost : Axis → Int} {m m' m₀ ready : Machine (Watched H) capacity}

protected theorem fresh (hardware : H) (q : BlockQueue capacity) :
    Settled inverted (fun _ => 0) (Machine.fresh { hardware := hardware } q) :=
  { unpulsed := unpulsed_reset _
    position := fun axis => by cases axis <;> rfl }

theorem silent (settled : Settled inverted lost m) (silent : Silent inverted m m') :
    Settled inverted lost m' :=
  { unpulsed := silent.unpulsed settled.unpulsed
    position := fun axis => by
      rw [silent.position, silent.travel axis, stagedStep, silent.staged]
      exact settled.position axis }

theorem unstaged (settled : Settled inverted lost m) :
    Settled inverted (fun axis => lost axis + m.stagedStep inverted axis) m.unstaged :=
  { unpulsed := settled.unpulsed
    position := fun axis => by
      have balance : m.journal.travel inverted axis + 0 +
          (lost axis + m.stagedStep inverted axis) =
          m.journal.travel inverted axis + m.stagedStep inverted axis + lost axis := by omega
      exact (settled.position axis).trans balance.symm }

theorem keptBy (settled : Settled rig.settings.invertMask lost m) (op : Operation)
    (m' : Machine (Watched H) capacity) :
    Settled rig.settings.invertMask (lose rig m op m' lost) (m.keptBy rig op) := by
  cases discards : m.discards rig op with
  | true =>
      have loses : lose rig m op m' lost =
          fun axis => lost axis + m.stagedStep rig.settings.invertMask axis := by
        funext axis
        rw [lose, if_pos discards]
      rw [keptBy_of_discards discards, loses]
      exact settled.unstaged
  | false =>
      have loses : lose rig m op m' lost = lost := by
        funext axis
        rw [lose, if_neg (Bool.eq_false_iff.mp discards), Int.add_zero]
      rwa [keptBy_of_keeps discards, loses]

theorem applied (settled : Settled rig.settings.invertMask lost m)
    (applied : applyStaged rig.watched m = (.ok (), m₀)) :
    Settled rig.settings.invertMask lost m₀ ∧ m₀.runtime.staged = none := by
  cases applies applied with
  | nothing unstaged => exact ⟨settled, unstaged⟩
  | @taken image _ staged =>
      refine ⟨{ unpulsed := settled.unpulsed, position := fun axis => ?_ }, rfl⟩
      have balance : (image ^^^ rig.settings.invertMask).stepOf axis +
          m.journal.travel rig.settings.invertMask axis + 0 + lost axis =
          m.journal.travel rig.settings.invertMask axis +
            (image ^^^ rig.settings.invertMask).stepOf axis + lost axis := by omega
      have position := settled.position axis
      rw [stagedStep, staged] at position
      exact position.trans balance.symm

theorem loads {loadsBlock : Bool} (settled : Settled rig.settings.invertMask lost m)
    (staged : m.runtime.staged = none) (loads : Loads rig.watched m ready loadsBlock) :
    Settled rig.settings.invertMask lost ready ∧
      ∀ axis, ready.stagedStep rig.settings.invertMask axis = 0 := by
  cases loads with
  | nothing => exact ⟨settled, stagedStep_of_none staged⟩
  | @segment s =>
      have loaded : Silent rig.settings.invertMask m
          (finishLoad rig.watched (loadSegment m s)) := ⟨rfl, rfl, id, fun _ => rfl⟩
      exact ⟨settled.silent loaded, stagedStep_of_none staged⟩
  | @block s b =>
      have unpulsed : ∀ axis, b.active.directions.contains (Lines.step axis) = false :=
        Lines.contains_step_directionLines b.directions
      have made : ∀ axis, (finishLoad rig.watched
          (loadBlock rig.watched (loadSegment m s) b.active)).stagedStep
            rig.settings.invertMask axis = 0 := by
        intro axis
        rw [stagedStep_of_some rfl axis]
        exact Lines.stepOf_of_unpulsed (unpulsed axis)
      refine ⟨{ unpulsed := unpulsed, position := fun axis => ?_ }, made⟩
      have position := settled.position axis
      rw [stagedStep_of_none staged] at position
      rw [made axis]
      exact position

theorem stepEvent (settled : Settled rig.settings.invertMask lost m)
    (made : ∀ axis, m.stagedStep rig.settings.invertMask axis = 0) :
    Settled rig.settings.invertMask lost (Machine.stepEvent rig.watched m) := by
  refine { unpulsed := settled.unpulsed, position := fun axis => ?_ }
  have staged : (Machine.stepEvent rig.watched m).stagedStep rig.settings.invertMask axis =
      m.nextImage.stepOf axis := stagedStep_of_some (staged_eq_nextImage rig.watched m) axis
  have balance : m.journal.travel rig.settings.invertMask axis + 0 + lost axis +
      m.nextImage.stepOf axis =
      m.journal.travel rig.settings.invertMask axis + m.nextImage.stepOf axis + lost axis := by
    omega
  have position := settled.position axis
  rw [made axis] at position
  rw [position_stepEvent_eq rig.watched settled.unpulsed axis, staged, position]
  exact balance

theorem advances {loadsBlock : Bool} (settled : Settled rig.settings.invertMask lost m)
    (made : ∀ axis, m.stagedStep rig.settings.invertMask axis = 0)
    (advances : Advances rig.watched m loadsBlock m') :
    Settled rig.settings.invertMask lost m' := by
  cases advances with
  | coasts => exact settled.silent ⟨rfl, rfl, id, fun _ => rfl⟩
  | steps =>
      have paced : Settled rig.settings.invertMask lost
          (paced rig.watched m (nextDistance rig.watched m + stepDistance m)) :=
        settled.silent ⟨rfl, rfl, id, fun _ => rfl⟩
      exact (paced.stepEvent made).silent ⟨rfl, rfl, id, fun _ => rfl⟩

theorem executes (settled : Settled rig.settings.invertMask lost m)
    (staged : m.runtime.staged = none) (executes : Executes rig.watched m m') :
    Settled rig.settings.invertMask lost m' := by
  cases executes with
  | advances loads =>
      have ⟨ready, made⟩ := settled.loads staged loads
      exact ready.advances made (Machine.advances rfl)
  | holds => exact settled.silent (finishHold_rests rig m).silent
  | runsDry =>
      obtain ⟨_, rests, _⟩ := (finishes rig m).rests
      exact settled.silent rests.silent
  | @orphaned s =>
      have loaded : Silent rig.settings.invertMask m (loadSegment m s) :=
        ⟨rfl, rfl, id, fun _ => rfl⟩
      exact settled.silent (loaded.trans (enterAlarm_rests rig _).silent)

theorem tick (settled : Settled rig.settings.invertMask lost m) :
    Settled rig.settings.invertMask (lose rig m .tick (m.tick rig.watched) lost)
      (m.tick rig.watched) := by
  have kept := settled.keptBy .tick (m.tick rig.watched)
  cases busy : m.runtime.busy with
  | true =>
      have keeps : m.discards rig .tick = false := by
        rw [discards, busy]
        rfl
      rw [keptBy_of_keeps keeps] at kept
      rwa [tick_busy busy] at kept ⊢
  | false =>
      cases applied : applyStaged rig.watched m with
      | mk result m₀ =>
          cases result with
          | error cause =>
              -- The refused image is not written again, so that its step is lost.
              have drops : m.discards rig .tick = true := by
                rw [discards, busy, applied]
                rfl
              rw [keptBy_of_discards drops] at kept
              rw [tick_refused busy applied] at kept ⊢
              exact kept.silent ((silent_refused rig applied).trans (enterAlarm_rests rig m₀).silent)
          | ok =>
              have keeps : m.discards rig .tick = false := by
                rw [discards, busy, applied]
                rfl
              rw [keptBy_of_keeps keeps] at kept
              obtain ⟨written, gone⟩ := kept.applied applied
              have taken : Settled rig.settings.invertMask _ (m₀.setBusy true) :=
                written.silent ⟨rfl, rfl, id, fun _ => rfl⟩
              rw [tick_applied busy applied] at taken ⊢
              exact taken.executes gone (Machine.executes rfl)

theorem perform {op : Operation} {reply : Reply} (settled : Settled rig.settings.invertMask lost m)
    (keeps : op.keepsPosition = true) (performed : m.perform rig.watched op = .ok (reply, m')) :
    Settled rig.settings.invertMask (lose rig m op m' lost) m' := by
  by_cases ticking : op = .tick
  · subst ticking
    cases performs performed
    exact settled.tick
  · exact (settled.keptBy op m').silent (perform_silent keeps ticking performed)

theorem run {start : Machine (Watched H) capacity} {blank : Axis → Int}
    (settled : Settled rig.settings.invertMask blank start)
    (ran : Run rig.watched unplaced (lose rig) start blank m lost) :
    Settled rig.settings.invertMask lost m := by
  induction ran with
  | start => exact settled
  | step _ allowed performed ih => exact ih.perform allowed performed

end Settled

/-- In any order of operations and with any refusals, a machine has moved from where it was built by
the steps of the images that went out, the step that is staged, and the steps that were lost: those
that stood in an image dropped by a restart, by a wake-up in a cycle, or by the refusal of its
write. -/
theorem position_accounted (rig : Rig H) (hardware : H) {q : BlockQueue capacity}
    {m : Machine (Watched H) capacity} {lost : Axis → Int}
    (ran : Run rig.watched unplaced (lose rig) (Machine.fresh { hardware := hardware } q)
      (fun _ => 0) m lost) (axis : Axis) :
    m.position.get axis - (Machine.fresh ({ hardware := hardware } : Watched H) q).position.get axis =
      m.journal.travel rig.settings.invertMask axis + m.stagedStep rig.settings.invertMask axis +
        lost axis := by
  have start : (Machine.fresh ({ hardware := hardware } : Watched H) q).position.get axis = 0 :=
    PerAxis.get_constant 0 axis
  rw [start, Int.sub_zero]
  exact ((Settled.fresh hardware q).run ran).position axis

def sampleStart : Machine (Watched Unit) 4 := Machine.fresh { hardware := () } {}

def wokenRun : List Operation :=
  [.pushBlock .sample, .queue, .cycleStart, .prepareSegments, .tick, .tick, .wakeUp]

theorem position_accounted_after_wake_up :
    ∃ (m : Machine (Watched Unit) 4) (lost : Axis → Int),
      Run sampleRig.watched unplaced (lose sampleRig) sampleStart (fun _ => 0) m lost ∧
      lost .x = 1 ∧ m.journal.travel sampleRig.settings.invertMask .x = 1 ∧
      m.position.get .x - sampleStart.position.get .x =
        m.journal.travel sampleRig.settings.invertMask .x +
          m.stagedStep sampleRig.settings.invertMask .x + lost .x := by
  have followed : (follow sampleRig.watched (fun _ op => op.keepsPosition) (lose sampleRig)
      sampleStart (fun _ => 0) (wokenRun ++ [.tick, .tick, .tick])).any (fun r =>
        r.2 .x == 1 && r.1.journal.travel sampleRig.settings.invertMask .x == 1) = true := by
    decide +kernel
  obtain ⟨m, lost, ran, shown⟩ := exists_run (fun _ _ keeps => keeps) followed
  obtain ⟨dropped, made⟩ := Bool.and_eq_true_iff.mp shown
  exact ⟨m, lost, ran, eq_of_beq dropped, eq_of_beq made,
    position_accounted sampleRig () ran .x⟩

def delivered : Rule (Watched H) capacity := fun m op =>
  op.keepsPosition = true ∧ (op = .tick → m.ticking = true)

def mayDeliver (m : Machine (Watched H) capacity) (op : Operation) : Bool :=
  op.keepsPosition && (op != .tick || m.ticking)

theorem delivered_of_mayDeliver (m : Machine (Watched H) capacity) (op : Operation)
    (may : mayDeliver m op = true) : delivered m op := by
  obtain ⟨keeps, ticks⟩ := Bool.and_eq_true_iff.mp may
  refine ⟨keeps, fun ticking => ?_⟩
  rcases Bool.or_eq_true_iff.mp ticks with other | running
  · exact absurd ticking (bne_iff_ne.mp other)
  · exact running

/-- Nothing is refused, ticks arrive while the tick source runs, and yet a step that has been counted
is never made. -/
theorem wake_up_drops_step :
    ∃ (m : Machine (Watched Unit) 4) (lost : Axis → Int),
      Run sampleRig.watched delivered (lose sampleRig) sampleStart (fun _ => 0) m lost ∧
      m.journal.Clean ∧
      m.position.get .x - sampleStart.position.get .x ≠
        m.journal.travel sampleRig.settings.invertMask .x +
          m.stagedStep sampleRig.settings.invertMask .x := by
  have followed : (follow sampleRig.watched mayDeliver (lose sampleRig) sampleStart (fun _ => 0)
      wokenRun).any (fun r => r.1.journal.all (fun entry => entry.refusal == none) &&
        (r.1.position.get .x == 1 &&
          (r.1.journal.travel sampleRig.settings.invertMask .x == 0 &&
            r.1.stagedStep sampleRig.settings.invertMask .x == 0))) = true := by
    decide +kernel
  obtain ⟨m, lost, ran, shown⟩ := exists_run delivered_of_mayDeliver followed
  simp only [Bool.and_eq_true, beq_iff_eq, List.all_eq_true] at shown
  obtain ⟨clean, position, travel, staged⟩ := shown
  refine ⟨m, lost, ran, clean, ?_⟩
  rw [position, travel, staged]
  decide

end StepPulse
