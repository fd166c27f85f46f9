import StepPulse.Proofs.Block.Deceleration
import StepPulse.Proofs.Machine.Completion

namespace StepPulse

open Machine

variable {H : Type} {capacity : Nat} {rig : Rig H} {m m' : Machine H capacity}

theorem BlockQueue.mem_of_discard {q : BlockQueue capacity} {b : Block}
    (member : b ∈ q.discard.blocks) : b ∈ q.blocks := by
  rw [blocks_discard] at member
  exact List.mem_of_mem_tail member

namespace Machine

theorem Still.mem {b : Block} (still : Still m m') (member : b ∈ m'.planner.blocks) :
    b ∈ m.planner.blocks := still.planner ▸ member

theorem mem_of_wakeUp {b : Block} (member : b ∈ (m.wakeUp rig).2.planner.blocks) :
    b ∈ m.planner.blocks := by
  rcases wakeUp_still rig m with still | asked
  · exact still.mem member
  · exact asked.mem member

theorem mem_of_cycleStart {b : Block} (member : b ∈ (m.cycleStart rig).2.planner.blocks) :
    b ∈ m.planner.blocks := by
  rw [cycleStart] at member
  split at member
  · exact mem_of_wakeUp (m := { m with runState := .cycle }) member
  · exact member
  · exact member

theorem mem_of_push {b other : Block} {number : UInt64} {planner : BlockQueue capacity}
    (pushed : m.planner.push other = .ok (number, planner)) (member : b ∈ planner.blocks) :
    b ∈ m.planner.blocks ∨ other = b := by
  obtain ⟨_, _, _, rfl⟩ := BlockQueue.push_eq_ok_iff.mp pushed
  rcases List.mem_append.mp member with old | new
  · exact Or.inl old
  · exact Or.inr (List.mem_singleton.mp new).symm

theorem mem_of_stepEvent (rig : Rig H) (m : Machine H capacity) {b : Block}
    (member : b ∈ (stepEvent rig m).planner.blocks) : b ∈ m.planner.blocks := by
  rw [planner_stepEvent] at member
  split at member
  · exact BlockQueue.mem_of_discard member
  · exact member

theorem mem_of_tick {b : Block} (member : b ∈ (m.tick rig).planner.blocks) :
    b ∈ m.planner.blocks := by
  have ticks := Machine.ticks rig m
  generalize m.tick rig = m' at ticks member
  cases ticks with
  | still still => exact still.mem member
  | orphaned still => exact still.mem ((still_enterAlarm rig _).mem member)
  | advanced still loads advances =>
      rw [← still.planner, ← loads.planner]
      cases advances with
      | coasts => exact member
      | steps => exact mem_of_stepEvent rig _ member

theorem mem_of_perform {op : Operation} {reply : Reply} {b : Block}
    (performed : m.perform rig op = .ok (reply, m')) (member : b ∈ m'.planner.blocks) :
    b ∈ m.planner.blocks ∨ op = .pushBlock b := by
  cases performs performed with
  | pushBlock pushed =>
      rcases mem_of_push pushed member with old | rfl
      · exact Or.inl old
      · exact Or.inr rfl
  | init => exact Or.inl ((still_init rig m).mem member)
  | wakeUp => exact Or.inl (mem_of_wakeUp member)
  | goIdle => exact Or.inl ((still_goIdle rig m).mem member)
  | cycleStart => exact Or.inl (mem_of_cycleStart member)
  | alarm => exact Or.inl ((still_goIdle rig { m with runState := .alarm }).mem member)
  | pulseReset => exact Or.inl ((still_onPulseReset rig m).mem member)
  | tick => exact Or.inl (mem_of_tick member)
  | discardBlock => exact Or.inl (BlockQueue.mem_of_discard member)
  | clearBlocks => exact absurd member List.not_mem_nil
  | _ => exact Or.inl member

theorem perform_total (rig : Rig H) (regular : ∀ b ∈ m.planner.blocks, b.Regular)
    (op : Operation) : ∃ reply m', m.perform rig op = .ok (reply, m') := by
  cases op with
  | prepareSegments =>
      obtain ⟨p, count, _, prepared⟩ := prepareSegments_total rig regular
      refine ⟨.emitted count, { m with pipeline := p }, ?_⟩
      rw [perform, prepared]
      rfl
  | _ => exact ⟨_, _, rfl⟩

end Machine

def Block.Built (b : Block) : Prop := ∃ move : Move, move.build = .ok b

theorem Block.Built.regular {b : Block} (built : b.Built) : b.Regular := by
  obtain ⟨move, built⟩ := built
  exact Move.regular_build built

/-- Nothing that is asked about deceleration ends in a fault, and each answer is a place within its
block. -/
structure Unfaulted (rig : Rig H) (m : Machine H capacity) : Prop where
  breakpoint : ∀ number, ∃ events, m.planner.breakpoint number = .ok events
  prepares : ∃ emitted m', m.prepareSegments rig = .ok (emitted, m')
  decelerates : ∀ b ∈ m.planner.blocks, ∀ exitSquared,
    ∃ exit start events, b.Decelerates exitSquared exit start events

theorem Unfaulted.of_built (rig : Rig H) (built : ∀ b ∈ m.planner.blocks, b.Built) :
    Unfaulted rig m := by
  have regular : ∀ b ∈ m.planner.blocks, b.Regular := fun b member => (built b member).regular
  refine { breakpoint := BlockQueue.breakpoint_total regular, prepares := ?_, decelerates := ?_ }
  · obtain ⟨p, count, _, prepared⟩ := prepareSegments_total rig regular
    exact ⟨count, _, prepared⟩
  · intro b member
    obtain ⟨move, builds⟩ := built b member
    exact Move.decelerates builds

/-- With any settings and in any order of operations, blocks that moves build are sliced, and their
breakpoints found, without a fault. -/
theorem built_blocks_never_fault (rig : Rig H) (hardware : H) {q : BlockQueue capacity}
    {ops : List Operation} (queued : ∀ b ∈ q.blocks, b.Built)
    (pushed : ∀ b, .pushBlock b ∈ ops → b.Built) :
    ∃ replies m, (Machine.fresh hardware q).run rig ops = .ok (replies, m) ∧ Unfaulted rig m := by
  have step : ∀ op ∈ ops, ∀ {m : Machine H capacity}, (∀ b ∈ m.planner.blocks, b.Built) →
      ∃ reply m', m.perform rig op = .ok (reply, m') ∧ ∀ b ∈ m'.planner.blocks, b.Built := by
    intro op member m built
    obtain ⟨reply, m', performed⟩ :=
      perform_total rig (fun b inside => (built b inside).regular) op
    refine ⟨reply, m', performed, fun b inside => ?_⟩
    rcases mem_of_perform performed inside with old | rfl
    · exact built b old
    · exact pushed b member
  obtain ⟨replies, m, ran, built⟩ :=
    run_total (fun m => ∀ b ∈ m.planner.blocks, b.Built) step (m := Machine.fresh hardware q) queued
  exact ⟨replies, m, ran, Unfaulted.of_built rig built⟩

def Move.steady (speed : Float32) : Move :=
  { steps := ⟨10, 0, 0⟩, length := 1.0, entry := ⟨speed⟩, nominal := ⟨speed⟩
    acceleration := ⟨36000.0⟩ }

def Block.steady (speed : Float32) : Block :=
  { steps := ⟨10, 0, 0⟩, events := 10, directions := Lines.none, entrySquared := speed * speed
    nominalSquared := speed * speed, acceleration := 36000.0, length := 1.0 }

theorem Block.built_steady_fast : (Block.steady 1e20).Built := ⟨Move.steady 1e20, by rfl⟩

theorem Block.built_steady_slow : (Block.steady 1e-30).Built := ⟨Move.steady 1e-30, by rfl⟩

/-- The squares of the first two blocks are infinite, and that of the third is zero: the first
block decelerates towards infinity from infinity, for no distance that is a number. -/
theorem overflow_never_faults :
    (Block.steady 1e20).nominalSquared.isInf = true ∧ (Block.steady 1e-30).nominalSquared = 0.0 ∧
      ((Block.steady 1e20).decelerationStart (Block.steady 1e20).entrySquared).isNaN = true ∧
      ∃ replies m, (Machine.fresh () {} : Machine Unit 4).run (Rig.bench {} Sizing.fixed)
        [.pushBlock (.steady 1e20), .pushBlock (.steady 1e20), .pushBlock (.steady 1e-30),
          .prepareSegments] = .ok (replies, m) ∧ Unfaulted (Rig.bench {} Sizing.fixed) m := by
  refine ⟨by decide +kernel, by decide +kernel, by decide +kernel, ?_⟩
  apply built_blocks_never_fault
  · simp
  · intro b member
    simp only [List.mem_cons, Operation.pushBlock.injEq, reduceCtorEq, List.not_mem_nil,
      or_false] at member
    rcases member with rfl | rfl | rfl
    · exact Block.built_steady_fast
    · exact Block.built_steady_fast
    · exact Block.built_steady_slow

end StepPulse
