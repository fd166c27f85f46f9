import StepPulse.Proofs.Block.Built

namespace StepPulse

inductive MoveDetail where
  | steps (counts : PerAxis Int32)
  | axis (axis : Axis) (count : Int32)
  | length (millimetres : Float32)
  | entry (speed : Speed)
  | nominal (speed : Speed)
  | acceleration (acceleration : Acceleration)

def MoveDetail.count? (axis : Axis) : MoveDetail → Option Int32
  | .steps counts => some (counts.get axis)
  | .axis other count => if axis = other then some count else none
  | _ => none

namespace Move

def withDetail (m : Move) : MoveDetail → Move
  | .steps counts => m.withSteps counts
  | .axis axis count => m.withAxis axis count
  | .length millimetres => { m with length := millimetres }
  | .entry speed => { m with entry := speed }
  | .nominal speed => { m with nominal := speed }
  | .acceleration acceleration => { m with acceleration := acceleration }

def withDetails (m : Move) (details : List MoveDetail) : Move := details.foldl withDetail m

def lastCount (m : Move) (details : List MoveDetail) (axis : Axis) : Int32 :=
  (details.filterMap (MoveDetail.count? axis)).getLast?.getD (m.steps.get axis)

theorem get_steps_withDetail (m : Move) (detail : MoveDetail) (axis : Axis) :
    (m.withDetail detail).steps.get axis = (detail.count? axis).getD (m.steps.get axis) := by
  cases detail with
  | axis other count =>
      simp only [withDetail, withAxis, MoveDetail.count?, PerAxis.get_set]
      split <;> rfl
  | _ => rfl

theorem lastCount_cons (m : Move) (detail : MoveDetail) (details : List MoveDetail) (axis : Axis) :
    m.lastCount (detail :: details) axis = (m.withDetail detail).lastCount details axis := by
  rw [lastCount, lastCount, get_steps_withDetail]
  cases given : detail.count? axis with
  | none => rw [List.filterMap_cons_none given, Option.getD_none]
  | some count =>
      rw [List.filterMap_cons_some given, List.getLast?_cons, Option.getD_some, Option.getD_some]

theorem get_steps_withDetails (m : Move) (details : List MoveDetail) (axis : Axis) :
    (m.withDetails details).steps.get axis = m.lastCount details axis := by
  induction details generalizing m with
  | nil => rfl
  | cons detail details ih =>
      calc
        (m.withDetails (detail :: details)).steps.get axis
        _ = ((m.withDetail detail).withDetails details).steps.get axis := rfl
        _ = (m.withDetail detail).lastCount details axis := ih (m.withDetail detail)
        _ = m.lastCount (detail :: details) axis := (m.lastCount_cons detail details axis).symm

end Move

structure Block.Carries (b : Block) (counts : Axis → Int32) : Prop where
  signedSteps_eq : ∀ axis, b.signedSteps axis = (counts axis).toInt
  steps_le : ∀ axis, b.steps.get axis ≤ b.events
  longest : ∃ axis, b.steps.get axis = b.events
  one_le_events : 1 ≤ b.events.toNat
  events_le : b.events.toNat ≤ 2 ^ 31
  only_directions : b.directions.directionLines = b.directions
  contains_iff : ∀ axis, b.directions.contains (Lines.direction axis) = true ↔ counts axis < 0

theorem Move.carries_build {m : Move} {b : Block} (built : m.build = .ok b) :
    b.Carries m.steps.get := by
  have regular := regular_build built
  obtain ⟨_, _, rfl⟩ := build_eq_ok built
  refine
    { signedSteps_eq := m.signedSteps_block, steps_le := ?_, longest := regular.longest
      one_le_events := regular.eventful, events_le := m.toNat_events_le
      only_directions := m.directionLines_directions, contains_iff := ?_ }
  · intro axis
    exact UInt32.le_iff_toNat_le.mpr (regular.steps_le axis)
  · intro axis
    rw [block_directions, contains_directions, decide_eq_true_iff]

/-- Whatever details a move is given, and in whatever order: a block that is built carries the last
count of each axis. It is built when one of these counts is not zero and the move is feasible, and
the move is refused as empty exactly when all of them are zero. -/
theorem carries_last_counts (m : Move) (details : List MoveDetail) :
    (∀ b, (m.withDetails details).build = .ok b → b.Carries (m.lastCount details)) ∧
      ((∃ b, (m.withDetails details).build = .ok b) ↔
        (∃ axis, m.lastCount details axis ≠ 0) ∧ (m.withDetails details).Feasible) ∧
      ((m.withDetails details).build = .error .empty ↔ ∀ axis, m.lastCount details axis = 0) := by
  have counts : (m.withDetails details).steps.get = m.lastCount details :=
    funext (m.get_steps_withDetails details)
  rw [← counts]
  refine ⟨?_, ?_, ?_⟩
  · intro b built
    exact Move.carries_build built
  · exact Move.exists_build_iff _
  · exact Move.build_eq_error_empty_iff _

def MoveDetail.overridden : List MoveDetail :=
  [.axis .y 7, .length 1.0, .steps ⟨5, -3, -9⟩, .axis .x (-2147483648), .nominal ⟨600.0⟩,
    .axis .z 4, .acceleration ⟨36000.0⟩, .axis .z 0]

def Block.farthest : Block :=
  { steps := ⟨2147483648, 3, 0⟩, events := 2147483648
    directions := Lines.direction .x ||| Lines.direction .y, entrySquared := 0.0
    nominalSquared := 360000.0, acceleration := 36000.0, length := 1.0 }

theorem carries_least_count :
    (Move.withDetails {} MoveDetail.overridden).build = .ok Block.farthest ∧
      Block.farthest.Carries (PerAxis.get ⟨-2147483648, -3, 0⟩) := by
  have built : (Move.withDetails {} MoveDetail.overridden).build = .ok Block.farthest := by rfl
  have last : Move.lastCount {} MoveDetail.overridden = PerAxis.get ⟨-2147483648, -3, 0⟩ := by
    funext axis
    cases axis <;> rfl
  refine ⟨built, ?_⟩
  rw [← last]
  exact (carries_last_counts {} MoveDetail.overridden).1 Block.farthest built

end StepPulse
