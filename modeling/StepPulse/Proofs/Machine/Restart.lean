import StepPulse.Proofs.Machine.Passage
import StepPulse.Proofs.Machine.Ticking

/-!
Running dry and starting again. When the ring runs dry within a block the machine goes idle, and the
next cycle start loads the block anew for the events that are left. Each stint then follows the line
of the block from its start, and what the stints make together can fall short of the block: a block
is crossed exactly when each axis has all its steps due in the stints, as it has in a single one.
-/

namespace StepPulse

open Machine

variable {H : Type} {capacity : Nat} {rig : Rig H}

/-- Blocks are built and queued, sliced and executed, and motion is started; ticks arrive while the
tick source runs. -/
def Machine.inMotion : Rule (Watched H) capacity
  | _, .pushBlock b => ∃ move : Move, move.build = .ok b
  | m, .tick => m.ticking = true
  | _, .prepareSegments => True
  | _, .queue => True
  | _, .cycleStart => True
  | _, _ => False

/-- How a block was crossed between two places, in stints of so many step events. -/
structure Crossed (b : Block) (stints : List Nat) (origin finish : PerAxis Steps) : Prop where
  events : stints.sum = b.events.toNat
  displaced : ∀ axis,
    finish.get axis - origin.get axis = b.sense axis * b.dueIn axis stints
  exact_iff : (∀ axis, finish.get axis - origin.get axis = b.signedSteps axis) ↔
    ∀ axis, b.dueIn axis stints = (b.steps.get axis).toNat
  at_once : stints.length = 1 →
    ∀ axis, finish.get axis - origin.get axis = b.signedSteps axis

theorem Crossed.of_displaced {b : Block} {stints : List Nat} {origin finish : PerAxis Steps}
    (regular : b.Regular) (events : stints.sum = b.events.toNat)
    (displaced : ∀ axis,
      finish.get axis = origin.get axis + b.sense axis * b.dueIn axis stints) :
    Crossed b stints origin finish := by
  have difference : ∀ axis,
      finish.get axis - origin.get axis = b.sense axis * b.dueIn axis stints := fun axis =>
    Int.sub_eq_iff_eq_add'.mpr (displaced axis)
  have exact_iff : (∀ axis, finish.get axis - origin.get axis = b.signedSteps axis) ↔
      ∀ axis, b.dueIn axis stints = (b.steps.get axis).toNat := by
    apply forall_congr'
    intro axis
    rw [difference axis, b.signedSteps_eq axis]
    constructor
    · intro same
      exact Int.ofNat_inj.mp (Int.eq_of_mul_eq_mul_left (b.sense_ne_zero axis) same)
    · intro same
      rw [same]
  refine
    { events := events, displaced := difference, exact_iff := exact_iff, at_once := ?_ }
  intro single
  apply exact_iff.mpr
  intro axis
  obtain ⟨n, rfl⟩ := List.length_eq_one_iff.mp single
  have whole : n = b.events.toNat := by simpa using events
  calc
    b.dueIn axis [n]
    _ = b.due axis b.events.toNat := by
      rw [Block.dueIn, whole, List.map_singleton, List.sum_singleton]
    _ = (b.steps.get axis).toNat := Block.due_all regular axis

structure Underway (settings : Settings) (m : Machine (Watched H) capacity) (t : Trip) : Prop where
  onCourse : ∃ first, OnCourse settings m t first
  gated : Gated m

namespace Underway

variable {settings : Settings} {m m' : Machine (Watched H) capacity} {t : Trip} {first : Nat}

protected theorem fresh (settings : Settings) (hardware : H) {q : BlockQueue capacity}
    (regular : ∀ b ∈ q.blocks, b.Regular) :
    Underway settings (Machine.fresh { hardware := hardware } q)
      { origin := PerAxis.constant 0 } :=
  { onCourse := ⟨0, OnCourse.fresh settings _ (PerAxis.constant 0) regular⟩
    gated := Gated.fresh hardware q }

theorem goesOn (onCourse : OnCourse settings m' t first)
    (planner : m'.planner = m.planner) (position : m'.position = m.position)
    (load : m'.runtime.load = m.runtime.load ∨ m'.runtime.load = .block) :
    Passes settings m m' (t.extend m m') := by
  rw [OnCourse.extend_of_resting position load]
  exact .goesOn planner onCourse

theorem cycleStart (underway : Underway settings m t) :
    Passes settings m (m.cycleStart rig.watched).2
      (t.extend m (m.cycleStart rig.watched).2) := by
  obtain ⟨first, onCourse⟩ := underway.onCourse
  simp only [Machine.cycleStart]
  split
  · next queued =>
    -- Out of a cycle no segment is in execution, so the block load that is asked for tears none.
    have settled := underway.gated.settled (Or.inr queued)
    rcases wakeUp_still rig.watched { m with runState := .cycle } with still | asked
    · have same : Still m (wakeUp rig.watched { m with runState := .cycle }).2 :=
        still.after ⟨rfl, rfl, rfl, rfl⟩
      exact goesOn (onCourse.still same) same.planner same.position (Or.inl same.load)
    · have same : Still m.requestBlock (wakeUp rig.watched { m with runState := .cycle }).2 :=
        asked.after ⟨rfl, rfl, rfl, rfl⟩
      exact goesOn ((onCourse.requestBlock settled).still same) same.planner same.position
        (Or.inr same.load)
  · exact goesOn (onCourse.still ⟨rfl, rfl, rfl, rfl⟩) rfl rfl (Or.inl rfl)
  · exact goesOn onCourse rfl rfl (Or.inl rfl)

theorem pushBlock (onCourse : OnCourse settings m t first) {b : Block} {reply : Reply}
    (regular : b.Regular) (performed : m.perform rig.watched (.pushBlock b) = .ok (reply, m')) :
    OnCourse settings m' t first ∧ t.extend m m' = t ∧ m'.planner.tail = m.planner.tail := by
  cases performs performed with
  | pushBlock pushed =>
      refine ⟨onCourse.queued regular pushed, OnCourse.extend_of_resting rfl (Or.inl rfl), ?_⟩
      obtain ⟨_, _, _, rfl⟩ := BlockQueue.push_eq_ok_iff.mp pushed
      rfl
  | pushRejected => exact ⟨onCourse, OnCourse.extend_of_resting rfl (Or.inl rfl), rfl⟩

theorem passes (underway : Underway rig.settings m t) {op : Operation} {reply : Reply}
    (allowed : inMotion m op) (other : ∀ b, op ≠ .pushBlock b)
    (performed : m.perform rig.watched op = .ok (reply, m')) :
    Passes rig.settings m m' (t.extend m m') := by
  obtain ⟨first, onCourse⟩ := underway.onCourse
  cases performs performed with
  | pushBlock => exact absurd rfl (other _)
  | pushRejected => exact absurd rfl (other _)
  | prepareSegments filled => exact goesOn (onCourse.fill filled) rfl rfl (Or.inl rfl)
  | queue => exact goesOn (onCourse.still ⟨rfl, rfl, rfl, rfl⟩) rfl rfl (Or.inl rfl)
  | queueUnheeded => exact goesOn onCourse rfl rfl (Or.inl rfl)
  | cycleStart => exact underway.cycleStart
  | tick => exact onCourse.ticks (Machine.ticks rig.watched m)
  | _ => exact allowed.elim

theorem gated_perform {op : Operation} {reply : Reply} (gated : Gated m) (allowed : inMotion m op)
    (performed : m.perform rig.watched op = .ok (reply, m')) : Gated m' := by
  cases performs performed with
  | pushBlock => exact gated.congr rfl rfl rfl
  | pushRejected => exact gated
  | prepareSegments => exact gated.congr rfl rfl rfl
  | queue idle => exact gated.queue idle
  | queueUnheeded => exact gated
  | cycleStart => exact gated.cycleStart
  | tick => exact gated.tick allowed
  | _ => exact allowed.elim

theorem perform (underway : Underway rig.settings m t) {op : Operation} {reply : Reply}
    (allowed : inMotion m op) (performed : m.perform rig.watched op = .ok (reply, m')) :
    Underway rig.settings m' (Trip.record m op m' t) := by
  refine ⟨?_, gated_perform underway.gated allowed performed⟩
  obtain ⟨first, onCourse⟩ := underway.onCourse
  by_cases pushing : ∃ b, op = .pushBlock b
  · obtain ⟨b, rfl⟩ := pushing
    obtain ⟨move, built⟩ := allowed
    obtain ⟨kept, same, tail⟩ := pushBlock onCourse (Move.regular_build built) performed
    rw [Trip.record, if_pos tail, same]
    exact ⟨first, kept⟩
  · cases underway.passes allowed (fun b same => pushing ⟨b, same⟩) performed with
    | goesOn planner onCourse' =>
        rw [Trip.record, if_pos (congrArg BlockQueue.tail planner)]
        exact ⟨_, onCourse'⟩
    | crosses planned planner _ _ onCourse' =>
        rw [Trip.record, planner, if_neg (BlockQueue.tail_discard_ne planned)]
        exact ⟨_, onCourse'⟩

theorem run {start : Machine (Watched H) capacity} {blank : Trip}
    (initially : Underway rig.settings start blank)
    (ran : Run rig.watched inMotion Trip.record start blank m t) : Underway rig.settings m t := by
  induction ran with
  | start => exact initially
  | step _ allowed performed ih => exact ih.perform allowed performed

theorem crossed (underway : Underway rig.settings m t) {op : Operation} {reply : Reply}
    (allowed : inMotion m op) (performed : m.perform rig.watched op = .ok (reply, m'))
    (discarded : m'.planner.tail ≠ m.planner.tail) :
    ∃ b, m.planner.current? = some b ∧
      Crossed b (t.extend m m').stints t.origin m'.position := by
  obtain ⟨first, onCourse⟩ := underway.onCourse
  by_cases pushing : ∃ b, op = .pushBlock b
  · obtain ⟨b, rfl⟩ := pushing
    obtain ⟨move, built⟩ := allowed
    exact absurd (pushBlock onCourse (Move.regular_build built) performed).2.2 discarded
  · cases underway.passes allowed (fun b same => pushing ⟨b, same⟩) performed with
    | goesOn planner => exact absurd (congrArg BlockQueue.tail planner) discarded
    | @crosses b blocks planned planner sum displaced _ =>
        have regular := onCourse.regular_of_planned planned
        have origin : (t.extend m m').origin = t.origin := by
          rw [Trip.extend]
          split <;> split <;> rfl
        rw [origin] at displaced
        exact ⟨b, BlockQueue.current?_of_planned planned,
          Crossed.of_displaced regular sum displaced⟩

end Underway

/-- In any order of pushes, slicings, ticks and starts, and with any refusals: whenever a block
leaves the planner, the stints since the last one left make up its events, and each axis has moved
by the steps that were due in them. That is the block itself exactly when all its steps were due. -/
theorem crossed_at_discard (rig : Rig H) (hardware : H) {q : BlockQueue capacity}
    (built : ∀ b ∈ q.blocks, ∃ move : Move, move.build = .ok b)
    {m m' : Machine (Watched H) capacity} {t : Trip} {op : Operation} {reply : Reply}
    (ran : Run rig.watched inMotion Trip.record (Machine.fresh { hardware := hardware } q)
      { origin := PerAxis.constant 0 } m t)
    (allowed : inMotion m op) (performed : m.perform rig.watched op = .ok (reply, m'))
    (discarded : m'.planner.tail ≠ m.planner.tail) :
    ∃ b, m.planner.current? = some b ∧
      Crossed b (t.extend m m').stints t.origin m'.position := by
  have regular : ∀ b ∈ q.blocks, b.Regular := by
    intro b member
    obtain ⟨move, from_move⟩ := built b member
    exact Move.regular_build from_move
  have underway : Underway rig.settings m t :=
    Underway.run (Underway.fresh rig.settings hardware regular) ran
  exact underway.crossed allowed performed discarded

def shortRig : Rig Unit :=
  Rig.bench { segmentStepCap := 1, minimumStepRate := 4294967295 } Sizing.fixed

def dryRun : List Operation :=
  [.pushBlock .uneven, .queue, .cycleStart, .prepareSegments] ++ List.replicate 11 .tick ++
    [.queue, .cycleStart, .prepareSegments, .tick]

def dryRunAllowed (m : Machine (Watched Unit) 4) : Operation → Bool
  | .pushBlock b => b == .uneven
  | .tick => m.ticking
  | .prepareSegments => true
  | .queue => true
  | .cycleStart => true
  | _ => false

theorem inMotion_of_dryRunAllowed (m : Machine (Watched Unit) 4) (op : Operation)
    (allowed : dryRunAllowed m op = true) : inMotion m op := by
  cases op with
  | pushBlock b =>
      obtain rfl := eq_of_beq allowed
      exact ⟨.uneven, Move.build_uneven⟩
  | tick => exact allowed
  | prepareSegments => trivial
  | queue => trivial
  | cycleStart => trivial
  | _ => contradiction

theorem exists_dryRun (shown : Machine (Watched Unit) 4 × Trip → Bool)
    (followed : (follow shortRig.watched dryRunAllowed Trip.record
      (Machine.fresh { hardware := () } {}) { origin := PerAxis.constant 0 } dryRun).any shown =
        true) :
    ∃ m t, Run shortRig.watched inMotion Trip.record (Machine.fresh { hardware := () } {})
      { origin := PerAxis.constant 0 } m t ∧ shown (m, t) = true :=
  exists_run inMotion_of_dryRunAllowed followed

theorem crossed_in_two_stints :
    ∃ (m : Machine (Watched Unit) 4) (t : Trip) (b : Block),
      (t.extend m (m.tick shortRig.watched)).stints = [1, 9] ∧
        Crossed b [1, 9] t.origin (m.tick shortRig.watched).position := by
  obtain ⟨m, t, ran, shown⟩ := exists_dryRun
    (fun r => r.1.ticking &&
      ((r.1.tick shortRig.watched).planner.tail != r.1.planner.tail &&
        (r.2.extend r.1 (r.1.tick shortRig.watched)).stints == [1, 9])) (by decide +kernel)
  simp only [Bool.and_eq_true, bne_iff_ne, beq_iff_eq] at shown
  obtain ⟨ticking, discarded, stints⟩ := shown
  have allowed : inMotion m .tick := ticking
  obtain ⟨b, _, crossed⟩ :=
    crossed_at_discard shortRig () (fun _ member => absurd member List.not_mem_nil) ran
      allowed rfl discarded
  rw [stints] at crossed
  exact ⟨m, t, b, stints, crossed⟩

/-- Nothing is refused, and yet the second axis is a step short when the block is left. -/
theorem restart_loses_step :
    ∃ (m : Machine (Watched Unit) 4) (t : Trip) (b : Block),
      Run shortRig.watched inMotion Trip.record (Machine.fresh { hardware := () } {})
        { origin := PerAxis.constant 0 } m t ∧
      m.ticking = true ∧ (m.tick shortRig.watched).journal.Clean ∧
      (m.tick shortRig.watched).planner.tail ≠ m.planner.tail ∧ m.planner.current? = some b ∧
      (m.tick shortRig.watched).position.get .y - t.origin.get .y ≠ b.signedSteps .y := by
  obtain ⟨m, t, ran, shown⟩ := exists_dryRun
    (fun r => r.1.ticking &&
      ((r.1.tick shortRig.watched).journal.all (fun entry => entry.refusal == none) &&
        ((r.1.tick shortRig.watched).planner.tail != r.1.planner.tail &&
          (r.1.planner.current? == some .uneven &&
            (r.1.tick shortRig.watched).position.get .y - r.2.origin.get .y == 4))))
    (by decide +kernel)
  simp only [Bool.and_eq_true, bne_iff_ne, beq_iff_eq, List.all_eq_true] at shown
  obtain ⟨ticking, clean, discarded, current, short⟩ := shown
  refine ⟨m, t, .uneven, ran, ticking, clean, discarded, current, ?_⟩
  rw [short]
  decide

end StepPulse
