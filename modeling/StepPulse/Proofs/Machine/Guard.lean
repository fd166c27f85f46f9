import StepPulse.Proofs.Machine.Alarm

/-! The guard is down between operations, whichever writes are refused. -/

namespace StepPulse

open Machine

variable {H : Type} {capacity : Nat}

namespace Machine

/-- What can be asked for between two ticks without asking for a restart or a wake-up. -/
def spares (m : Machine H capacity) : Operation → Bool
  | .init => false
  | .reset => false
  | .wakeUp => false
  | .cycleStart => m.runState != .queued
  | .tick => false
  | _ => true

def sparing : Rule H capacity := fun m op => m.spares op = true

end Machine

section Free

variable {rig : Rig H} {m m' : Machine H capacity}

theorem busy_goIdle (rig : Rig H) (m : Machine H capacity) :
    (m.goIdle rig).2.runtime.busy = false := by
  obtain ⟨_, same⟩ := goIdle_changes rig m
  rw [same]
  rfl

theorem busy_wakeUp (rig : Rig H) (free : m.runtime.busy = false) :
    (m.wakeUp rig).2.runtime.busy = false := by
  rcases wakeUp_cases rig m with ⟨cause, same⟩ | ⟨_, same⟩ | ⟨_, same⟩
  · rw [same]
    exact free
  · rw [same]
    exact free
  · rw [same]
    exact free

theorem busy_init (rig : Rig H) (m : Machine H capacity) :
    (m.init rig).2.runtime.busy = false := by
  obtain ⟨_, same⟩ := init_changes rig m
  rw [same]
  rfl

theorem busy_cycleStart (rig : Rig H) (free : m.runtime.busy = false) :
    (m.cycleStart rig).2.runtime.busy = false := by
  rw [cycleStart]
  split
  · exact busy_wakeUp rig (m := { m with runState := .cycle }) free
  · exact free
  · exact free

theorem busy_onPulseReset (rig : Rig H) (free : m.runtime.busy = false) :
    (m.onPulseReset rig).runtime.busy = false := by
  obtain ⟨_, same | same⟩ := onPulseReset_changes rig m
  · rw [same]
    exact free
  · rw [same]
    rfl

theorem busy_tick (rig : Rig H) (free : m.runtime.busy = false) :
    (m.tick rig).runtime.busy = false := by
  rcases tick_cases rig m with ⟨_, same⟩ | ⟨cause, m₀, _, same⟩ | ⟨m₀, _, executes⟩
  · rwa [same]
  · rw [same]
    rfl
  · generalize m.tick rig = m' at executes
    cases executes with
    | @advances ready loadsBlock _ =>
        have advances : Advances rig ready loadsBlock _ := Machine.advances rfl
        generalize advance rig ready loadsBlock = m' at advances
        cases advances <;> rfl
    | holds => rfl
    | orphaned => rfl
    | runsDry =>
        obtain ⟨_, _, same, _⟩ := finishCycle_changes rig (m₀.setBusy true)
        rw [same]
        rfl

theorem free_perform {op : Operation} {reply : Reply} (free : m.runtime.busy = false)
    (performed : m.perform rig op = .ok (reply, m')) : m'.runtime.busy = false := by
  cases performs performed with
  | init => exact busy_init rig m
  | reset => rfl
  | wakeUp => exact busy_wakeUp rig free
  | goIdle => exact busy_goIdle rig m
  | alarm => exact busy_goIdle rig { m with runState := .alarm }
  | cycleStart => exact busy_cycleStart rig free
  | tick => exact busy_tick rig free
  | pulseReset => exact busy_onPulseReset rig free
  | _ => exact free

theorem Machine.Run.free {A : Type} {rule : Rule H capacity} {record : Recorder H capacity A}
    {start : Machine H capacity} {blank account : A} (initially : start.runtime.busy = false)
    (ran : Run rig rule record start blank m account) : m.runtime.busy = false := by
  induction ran with
  | start => exact initially
  | step _ _ performed ih => exact free_perform ih performed

end Free

section Staged

variable {rig : Rig H} {m m' : Machine (Watched H) capacity} {image : Lines}

theorem discards_of_spares {op : Operation} (spares : m.spares op = true) :
    m.discards rig op = false := by
  cases op with
  | cycleStart =>
      have unqueued : (m.runState == .queued) = false := by
        simpa [Machine.spares] using spares
      rw [discards, unqueued]
      rfl
  | init => contradiction
  | reset => contradiction
  | wakeUp => contradiction
  | tick => contradiction
  | _ => rfl

theorem staged_perform {op : Operation} {reply : Reply} (spares : m.spares op = true)
    (performed : m.perform rig.watched op = .ok (reply, m')) :
    m'.runtime.staged = m.runtime.staged := by
  cases keeps : op.keepsPosition with
  | true =>
      have other : op ≠ .tick := by
        rintro rfl
        contradiction
      have silent := perform_silent keeps other performed
      rw [keptBy_of_keeps (discards_of_spares spares)] at silent
      exact silent.staged
  | false =>
      cases performs performed with
      | setPosition => rfl
      | _ => contradiction

theorem staged_run {account : Unit} (ran : Run rig.watched sparing unrecorded m () m' account) :
    m'.runtime.staged = m.runtime.staged := by
  induction ran with
  | start => rfl
  | step _ spares performed ih => exact (staged_perform spares performed).trans ih

theorem applyStaged_attempts (rig : Rig H) (staged : m.runtime.staged = some image) :
    ∃ refusal, ⟨.output image, refusal⟩ :: m.journal <:+ (applyStaged rig.watched m).2.journal := by
  generalize applied : applyStaged rig.watched m = r
  cases applies applied with
  | nothing unstaged =>
      rw [staged] at unstaged
      contradiction
  | @refused _ cause _ other =>
      obtain rfl := Option.some.inj (staged.symm.trans other)
      exact ⟨some cause, List.suffix_rfl⟩
  | taken other =>
      obtain rfl := Option.some.inj (staged.symm.trans other)
      exact ⟨none, List.suffix_cons _ _⟩

theorem tick_attempts (rig : Rig H) (free : m.runtime.busy = false)
    (staged : m.runtime.staged = some image) :
    ∃ refusal, ⟨.output image, refusal⟩ :: m.journal <:+ (m.tick rig.watched).journal := by
  obtain ⟨refusal, attempted⟩ := applyStaged_attempts rig staged
  refine ⟨refusal, attempted.trans ?_⟩
  rcases tick_acts rig.watched free with ⟨cause, m₀, refused, same⟩ | ⟨m₀, taken, same⟩
  · rw [refused, same]
    exact (enterAlarm_rests rig m₀).unstarted.suffix
  · rw [taken, same]
    have executed := unstarted_executes rig (m₀.setBusy true) (executes rfl)
    exact executed.suffix

end Staged

/-- The guard is down, and nothing that was staged gets past the port. -/
structure Unguarded (rig : Rig H) (m : Machine (Watched H) capacity) : Prop where
  free : m.runtime.busy = false
  acts : (∃ cause m₀, applyStaged rig.watched m = (.error cause, m₀) ∧
      m.tick rig.watched = enterAlarm rig.watched m₀) ∨
    ∃ m₀, applyStaged rig.watched m = (.ok (), m₀) ∧
      m.tick rig.watched = execute rig.watched (m₀.setBusy true)
  /-- What it stages is written by the next one, or refused there, whatever comes in between short of
  a restart or a wake-up. -/
  attempted : ∀ {image : Lines} {m' : Machine (Watched H) capacity},
    (m.tick rig.watched).runtime.staged = some image →
    Run rig.watched sparing unrecorded (m.tick rig.watched) () m' () →
    m'.runtime.staged = some image ∧
      ∃ refusal, ⟨.output image, refusal⟩ :: m'.journal <:+ (m'.tick rig.watched).journal

/-- Whatever the planner holds, whatever is asked for and whatever the port refuses, the guard does
not stick. -/
theorem guard_comes_down (rig : Rig H) (hardware : H) {q : BlockQueue capacity}
    {m : Machine (Watched H) capacity}
    (reached : Reaches rig.watched (Machine.fresh { hardware := hardware } q) m) :
    Unguarded rig m := by
  have free : m.runtime.busy = false := reached.free rfl
  constructor
  case free => exact free
  case acts => exact tick_acts rig.watched free
  case attempted =>
    intro image m' staged between
    have kept := (staged_run between).trans staged
    exact ⟨kept, tick_attempts rig (between.free (busy_tick rig.watched free)) kept⟩

theorem asked_of_jammed_port :
    ∃ (m m' : Machine (Watched Unit) 4) (image : Lines), Reaches jammedRig.watched sampleStart m ∧
      (m.tick jammedRig.watched).runtime.staged = some image ∧
      Run jammedRig.watched sparing unrecorded (m.tick jammedRig.watched) () m' () ∧
      Unguarded jammedRig m ∧
      ∃ refusal, ⟨.output image, refusal⟩ :: m'.journal <:+ (m'.tick jammedRig.watched).journal := by
  obtain ⟨m, _, ran, shown⟩ := exists_unrestricted jammedRig.watched unrecorded sampleStart ()
    [.pushBlock .sample, .queue, .cycleStart, .prepareSegments]
    (fun r => (follow jammedRig.watched spares unrecorded (r.1.tick jammedRig.watched) ()
      [.alarm, .clearBlocks, .pulseReset, .acknowledge]).any fun r => r.1.runtime.staged.isSome)
    (by decide +kernel)
  obtain ⟨m', _, between, staged⟩ := exists_run (fun _ _ spared => spared) shown
  obtain ⟨image, kept⟩ := Option.isSome_iff_exists.mp staged
  have law := guard_comes_down jammedRig () ran
  have before := (staged_run between).symm.trans kept
  exact ⟨m, m', image, ran, before, between, law, (law.attempted before between).2⟩

end StepPulse
