import StepPulse.Proofs.Machine.Travel

/-!
The set-up of direction lines. The direction lines of a block go out before its first step: the load
of the block stages them alone, the next tick writes them, and only then can there be a step event.
Whatever drops the staged image asks for a block load, so that they are staged again. An image with a
step in it therefore finds the direction lines where the image before it has put them.
-/

namespace StepPulse

open Machine

variable {H : Type} {capacity : Nat} {rig : Rig H}

/-- What goes out in an operation: nothing, an image without steps, or one that leaves the direction
lines where the image before the operation has put them. -/
inductive Emits (inverted : Lines) (m m' : Machine (Watched H) capacity) : Prop
  | nothing : m'.journal.images = m.journal.images → Emits inverted m m'
  | bare {image : Lines} :
      m'.journal.images = image :: m.journal.images →
      (∀ axis, (image ^^^ inverted).contains (Lines.step axis) = false) → Emits inverted m m'
  | behind {image previous : Lines} {earlier : List Lines} :
      m'.journal.images = image :: m.journal.images → m.journal.images = previous :: earlier →
      image.directionLines = previous.directionLines → Emits inverted m m'

theorem Emits.congr {inverted : Lines} {m m' m'' : Machine (Watched H) capacity}
    (emits : Emits inverted m m') (same : m''.journal.images = m'.journal.images) :
    Emits inverted m m'' := by
  cases emits with
  | nothing images => exact .nothing (same.trans images)
  | bare images bare => exact .bare (same.trans images) bare
  | behind images before agree => exact .behind (same.trans images) before agree

structure Aside (m m' : Machine (Watched H) capacity) : Prop where
  images : m'.journal.images = m.journal.images
  staged : m'.runtime.staged = m.runtime.staged
  block : m'.runtime.block = m.runtime.block
  load : m'.runtime.load = m.runtime.load

theorem Machine.Rests.aside {m m' : Machine (Watched H) capacity} {runState : RunState}
    {cycleStop : Bool} (rests : Rests rig m runState cycleStop m') : Aside m m' := by
  cases rests with
  | after halting => cases halting <;> exact ⟨rfl, rfl, rfl, rfl⟩

theorem Machine.EndsPulse.aside {m m' : Machine (Watched H) capacity} (ends : EndsPulse rig m m') :
    Aside m m' := by
  cases ends <;> exact ⟨rfl, rfl, rfl, rfl⟩

theorem aside_finishCycle (rig : Rig H) (m : Machine (Watched H) capacity) :
    Aside m (finishCycle rig.watched m) := by
  obtain ⟨_, rests, _⟩ := (finishes rig m).rests
  exact rests.aside

/-- The last image that went out has the direction lines of the active block. -/
def Led (inverted : Lines) (m : Machine (Watched H) capacity) : Prop :=
  ∃ previous earlier, m.journal.images = previous :: earlier ∧
    (previous ^^^ inverted).directionLines = m.runtime.block.directions.directionLines

/-- How far the direction lines of the active block have come. -/
inductive SetUp (inverted : Lines) (m : Machine (Watched H) capacity) : Prop
  | out :
      Led inverted m →
      (∀ image, m.runtime.staged = some image →
        (image ^^^ inverted).directionLines = m.runtime.block.directions.directionLines) →
      SetUp inverted m
  | staged {image : Lines} :
      m.runtime.staged = some image →
      (image ^^^ inverted).directionLines = m.runtime.block.directions.directionLines →
      (∀ axis, (image ^^^ inverted).contains (Lines.step axis) = false) → SetUp inverted m
  | due : m.runtime.staged = none → m.runtime.load = .block → SetUp inverted m

namespace SetUp

variable {inverted : Lines} {m m' m₀ ready : Machine (Watched H) capacity} {loadsBlock : Bool}

theorem of_unstaged (unstaged : m.runtime.staged = none)
    (ready : Led inverted m ∨ m.runtime.load = .block) : SetUp inverted m := by
  rcases ready with led | load
  · refine .out led fun image staged => ?_
    rw [unstaged] at staged
    contradiction
  · exact .due unstaged load

theorem aside (setUp : SetUp inverted m) (aside : Aside m m') : SetUp inverted m' := by
  cases setUp with
  | out led agrees =>
      refine .out ?_ ?_
      · rw [Led, aside.images, aside.block]
        exact led
      · rw [aside.staged, aside.block]
        exact agrees
  | staged image agrees bare =>
      refine .staged (aside.staged.trans image) ?_ bare
      rw [aside.block]
      exact agrees
  | due unstaged load => exact .due (aside.staged.trans unstaged) (aside.load.trans load)

theorem agrees (setUp : SetUp inverted m) {image : Lines}
    (staged : m.runtime.staged = some image) :
    (image ^^^ inverted).directionLines = m.runtime.block.directions.directionLines ∧
      (Led inverted m ∨ ∀ axis, (image ^^^ inverted).contains (Lines.step axis) = false) := by
  cases setUp with
  | out led agrees => exact ⟨agrees image staged, Or.inl led⟩
  | staged other agrees bare =>
      obtain rfl := Option.some.inj (staged.symm.trans other)
      exact ⟨agrees, Or.inr bare⟩
  | due unstaged =>
      rw [staged] at unstaged
      contradiction

theorem applied (taken : ∀ image h, (rig.port.writeOutput image h).1 = .ok ())
    (setUp : SetUp rig.settings.invertMask m) :
    ∃ m₀, applyStaged rig.watched m = (.ok (), m₀) ∧ Emits rig.settings.invertMask m m₀ ∧
      m₀.runtime.staged = none ∧
      (Led rig.settings.invertMask m₀ ∨ m₀.runtime.load = .block) := by
  generalize applied : applyStaged rig.watched m = r
  cases applies applied with
  | nothing unstaged =>
      refine ⟨m, rfl, .nothing rfl, unstaged, ?_⟩
      cases setUp with
      | out led => exact Or.inl led
      | staged image =>
          rw [unstaged] at image
          contradiction
      | due _ load => exact Or.inr load
  | refused _ refused =>
      rw [taken] at refused
      contradiction
  | @taken image _ staged =>
      obtain ⟨agrees, before⟩ := setUp.agrees staged
      refine ⟨_, rfl, ?_, rfl, Or.inl ⟨image, m.journal.images, rfl, agrees⟩⟩
      rcases before with ⟨previous, earlier, images, leading⟩ | bare
      · have same : (image ^^^ rig.settings.invertMask).directionLines =
            (previous ^^^ rig.settings.invertMask).directionLines := agrees.trans leading.symm
        exact .behind rfl images (Lines.directionLines_inj_xor same)
      · exact .bare rfl bare

theorem stepEvent (led : Led rig.settings.invertMask m) :
    SetUp rig.settings.invertMask (Machine.stepEvent rig.watched m) := by
  refine .out led fun image staged => ?_
  rw [staged_eq_nextImage] at staged
  obtain rfl := Option.some.inj staged
  rw [Rig.settings_watched, Lines.xor_xor]
  exact Lines.directionLines_addSteps _ _ _

theorem advances (led : Led rig.settings.invertMask m) (unstaged : m.runtime.staged = none)
    (advances : Advances rig.watched m loadsBlock m') : SetUp rig.settings.invertMask m' := by
  cases advances with
  | coasts => exact (of_unstaged unstaged (Or.inl led)).aside ⟨rfl, rfl, rfl, rfl⟩
  | steps =>
      have paced : Led rig.settings.invertMask
          (paced rig.watched m (nextDistance rig.watched m + stepDistance m)) := led
      exact (stepEvent paced).aside ⟨rfl, rfl, rfl, rfl⟩

theorem advances_block {b : ActiveBlock} (bare : ∀ axis, b.directions.contains (Lines.step axis) = false)
    (advances : Advances rig.watched (finishLoad rig.watched (loadBlock rig.watched m b)) true m') :
    SetUp rig.settings.invertMask m' := by
  cases advances with
  | coasts =>
      have same := Lines.xor_xor b.directions rig.settings.invertMask
      refine .staged rfl ?_ ?_
      · exact congrArg Lines.directionLines same
      · rw [Rig.settings_watched, same]
        exact bare
  | steps _ other => contradiction

theorem executes (executes : Executes rig.watched m m') (unstaged : m.runtime.staged = none)
    (due : Led rig.settings.invertMask m ∨ m.runtime.load = .block) :
    SetUp rig.settings.invertMask m' := by
  have before := of_unstaged unstaged due
  cases executes with
  | holds => exact before.aside ⟨rfl, rfl, rfl, rfl⟩
  | runsDry => exact before.aside (aside_finishCycle rig m)
  | orphaned => exact before.aside ⟨rfl, rfl, rfl, rfl⟩
  | advances loads =>
      cases loads with
      | nothing load =>
          -- With no block load due the direction lines are out, as a step event needs them.
          have led := due.resolve_right (ne_of_eq_of_ne load (by decide))
          exact advances led unstaged (Machine.advances rfl)
      | @segment s load =>
          have led := due.resolve_right (ne_of_eq_of_ne load (by decide))
          have loaded : Led rig.settings.invertMask (finishLoad rig.watched (loadSegment m s)) := led
          exact advances loaded unstaged (Machine.advances rfl)
      | @block s b =>
          exact advances_block (Lines.contains_step_directionLines b.directions)
            (Machine.advances rfl)

theorem images_executes (executes : Executes rig.watched m m') :
    m'.journal.images = m.journal.images := by
  cases executes with
  | advances loads => exact congrArg (fun w => w.journal.images) loads.hardware_advance
  | holds => rfl
  | runsDry => exact (aside_finishCycle rig m).images
  | orphaned => rfl

theorem tick (taken : ∀ image h, (rig.port.writeOutput image h).1 = .ok ())
    (setUp : SetUp rig.settings.invertMask m) :
    Emits rig.settings.invertMask m (m.tick rig.watched) ∧
      SetUp rig.settings.invertMask (m.tick rig.watched) := by
  cases busy : m.runtime.busy with
  | true =>
      rw [tick_busy busy]
      exact ⟨.nothing rfl, setUp⟩
  | false =>
      obtain ⟨m₀, applied, emits, unstaged, due⟩ := setUp.applied taken
      have executed : Executes rig.watched (m₀.setBusy true) (m.tick rig.watched) :=
        Machine.executes (tick_applied busy applied).symm
      have images : (m.tick rig.watched).journal.images = (m₀.setBusy true).journal.images :=
        images_executes executed
      exact ⟨emits.congr images, executes executed unstaged due⟩

end SetUp

theorem Machine.Wakes.setUp {inverted : Lines} {m : Machine (Watched H) capacity}
    {r : Except LineError Unit × Machine (Watched H) capacity} (wakes : Wakes rig m r)
    (setUp : SetUp inverted m) :
    r.2.journal.images = m.journal.images ∧ SetUp inverted r.2 := by
  cases wakes with
  | refused => exact ⟨rfl, setUp.aside ⟨rfl, rfl, rfl, rfl⟩⟩
  | started => exact ⟨rfl, .due rfl rfl⟩
  | energized => exact ⟨rfl, setUp.aside ⟨rfl, rfl, rfl, rfl⟩⟩

theorem Machine.Starts.setUp {inverted : Lines} {m : Machine (Watched H) capacity}
    {r : Except LineError Unit × Machine (Watched H) capacity} (starts : Starts rig m r)
    (setUp : SetUp inverted m) :
    r.2.journal.images = m.journal.images ∧ SetUp inverted r.2 := by
  have begun : SetUp inverted { m with runState := .cycle } := setUp.aside ⟨rfl, rfl, rfl, rfl⟩
  cases starts with
  | woken _ wakes => exact wakes.setUp begun
  | resumed => exact ⟨rfl, begun.aside ⟨rfl, rfl, rfl, rfl⟩⟩
  | unheeded => exact ⟨rfl, setUp⟩

theorem Machine.Inits.setUp {m : Machine (Watched H) capacity}
    {r : Except LineError Unit × Machine (Watched H) capacity} (inits : Inits rig m r) :
    Emits rig.settings.invertMask m r.2 ∧ SetUp rig.settings.invertMask r.2 := by
  have bare := Lines.contains_step_xor_self rig.settings.invertMask
  cases inits with
  | refused => exact ⟨.nothing rfl, .due rfl rfl⟩
  | unwoken => exact ⟨.bare rfl bare, .due rfl rfl⟩
  | started _ rests => exact ⟨.bare rests.aside.images bare, .aside (.due rfl rfl) rests.aside⟩
  | rested _ rests => exact ⟨.bare rests.aside.images bare, .aside (.due rfl rfl) rests.aside⟩

def Operation.keepsStaged : Operation → Bool
  | .init => false
  | .reset => false
  | .wakeUp => false
  | .cycleStart => false
  | .tick => false
  | _ => true

theorem perform_aside {m m' : Machine (Watched H) capacity} {op : Operation} {reply : Reply}
    (keeps : op.keepsStaged = true) (performed : m.perform rig.watched op = .ok (reply, m')) :
    Aside m m' := by
  cases performs performed with
  | init => contradiction
  | reset => contradiction
  | wakeUp => contradiction
  | cycleStart => contradiction
  | tick => contradiction
  | goIdle => exact (goIdle_rests rig m).aside
  | alarm => exact (alarm_rests rig m).aside
  | pulseReset => exact (endsPulse rig m).aside
  | _ => exact ⟨rfl, rfl, rfl, rfl⟩

namespace SetUp

variable {m m' : Machine (Watched H) capacity}

theorem perform (taken : ∀ image h, (rig.port.writeOutput image h).1 = .ok ())
    {op : Operation} {reply : Reply} (setUp : SetUp rig.settings.invertMask m)
    (performed : m.perform rig.watched op = .ok (reply, m')) :
    Emits rig.settings.invertMask m m' ∧ SetUp rig.settings.invertMask m' := by
  by_cases keeps : op.keepsStaged = true
  · have aside := perform_aside keeps performed
    exact ⟨.nothing aside.images, setUp.aside aside⟩
  · cases performs performed with
    | init => exact (inits rig m).setUp
    | reset => exact ⟨.nothing rfl, .due rfl rfl⟩
    | wakeUp =>
        obtain ⟨images, woken⟩ := (wakes rig m).setUp setUp
        exact ⟨.nothing images, woken⟩
    | cycleStart =>
        obtain ⟨images, started⟩ := (starts rig m).setUp setUp
        exact ⟨.nothing images, started⟩
    | tick => exact setUp.tick taken
    | _ => exact absurd rfl keeps

theorem run {A : Type} {rule : Rule (Watched H) capacity} {record : Recorder (Watched H) capacity A}
    {start : Machine (Watched H) capacity} {blank account : A}
    (taken : ∀ image h, (rig.port.writeOutput image h).1 = .ok ())
    (initially : SetUp rig.settings.invertMask start)
    (ran : Run rig.watched rule record start blank m account) :
    SetUp rig.settings.invertMask m := by
  induction ran with
  | start => exact initially
  | step _ _ performed ih => exact (ih.perform taken performed).2

end SetUp

/-- As long as no image is refused, and in any order of operations: an operation sends out one image
at most, and if a step is made in it, then its direction lines are those of the image before it, which
an earlier operation has sent out. -/
theorem directions_lead_steps (rig : Rig H)
    (taken : ∀ image h, (rig.port.writeOutput image h).1 = .ok ()) (hardware : H)
    {q : BlockQueue capacity} {m m' : Machine (Watched H) capacity} {op : Operation} {reply : Reply}
    (reached : Reaches rig.watched (Machine.fresh { hardware := hardware } q) m)
    (performed : m.perform rig.watched op = .ok (reply, m')) :
    Emits rig.settings.invertMask m m' :=
  have initially : SetUp rig.settings.invertMask
      (Machine.fresh ({ hardware := hardware } : Watched H) q) := .due rfl rfl
  ((initially.run taken reached).perform taken performed).1

def turnedRun : List Operation :=
  [.pushBlock .sample, .pushBlock { Block.sample with directions := Lines.direction .x },
    .prepareSegments, .queue, .cycleStart] ++ List.replicate 6 .tick

theorem directions_lead_into_next_block :
    ∃ m : Machine (Watched Unit) 4,
      Reaches sampleRig.watched sampleStart m ∧
      (m.tick sampleRig.watched).journal.images.map Lines.bits = [9, 8, 17, 19, 17, 16] ∧
      Emits sampleRig.settings.invertMask m (m.tick sampleRig.watched) := by
  obtain ⟨m, _, ran, shown⟩ := exists_unrestricted sampleRig.watched unrecorded sampleStart ()
    turnedRun (fun r => (r.1.tick sampleRig.watched).journal.images.map Lines.bits ==
      [9, 8, 17, 19, 17, 16]) (by decide +kernel)
  have performed : m.perform sampleRig.watched .tick = .ok (.done, m.tick sampleRig.watched) := rfl
  have taken : ∀ image h, (sampleRig.port.writeOutput image h).1 = .ok () := fun _ _ => rfl
  exact ⟨m, ran, eq_of_beq shown, directions_lead_steps sampleRig taken () ran performed⟩

end StepPulse
