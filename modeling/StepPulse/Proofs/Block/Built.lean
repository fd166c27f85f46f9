import StepPulse.Block.Queue
import StepPulse.Proofs.Lines
import StepPulse.Proofs.Number.Sign

/-! Which moves are built, and what can be relied on in their blocks. -/

namespace StepPulse

structure Block.Regular (b : Block) : Prop where
  eventful : 0 < b.events.toNat
  steps_le : ∀ axis, (b.steps.get axis).toNat ≤ b.events.toNat
  longest : ∃ axis, b.steps.get axis = b.events
  decelerates : ∀ exitSquared, ∃ events, b.decelerateAfter exitSquared = .ok events

namespace Block

theorem decelerates_of_bounds {b : Block} (length : 0.0 ≤ b.length)
    (nominal : 0.0 ≤ b.nominalSquared) (exitSquared : Float32) :
    ∃ events, b.decelerateAfter exitSquared = .ok events := by
  rw [decelerateAfter]
  split
  · exact ⟨_, rfl⟩
  · simp only [Ieee.clamp, if_pos length, if_pos nominal]
    exact ⟨_, rfl⟩

end Block

namespace Move

theorem toNat_magnitude (steps : Int32) : (magnitude steps).toNat = steps.toInt.natAbs := by
  have low := steps.le_toInt
  have high := steps.toInt_lt
  rw [magnitude, UInt32.toNat_ofNat_of_lt']
  simp only [UInt32.size]
  omega

theorem toNat_events (m : Move) :
    m.events.toNat = max (m.steps.get .x).toInt.natAbs
      (max (m.steps.get .y).toInt.natAbs (m.steps.get .z).toInt.natAbs) := by
  simp only [events, Saturating.toNat_max]
  rw [← toNat_magnitude, ← toNat_magnitude, ← toNat_magnitude]
  rfl

theorem natAbs_le_events (m : Move) (axis : Axis) :
    (m.steps.get axis).toInt.natAbs ≤ m.events.toNat := by
  rw [toNat_events]
  cases axis <;> omega

theorem exists_longest (m : Move) :
    ∃ axis, (m.steps.get axis).toInt.natAbs = m.events.toNat := by
  rw [toNat_events]
  rcases max_choice (m.steps.get .x).toInt.natAbs
    (max (m.steps.get .y).toInt.natAbs (m.steps.get .z).toInt.natAbs) with x | rest
  · exact ⟨.x, x.symm⟩
  · rw [rest]
    rcases max_choice (m.steps.get .y).toInt.natAbs (m.steps.get .z).toInt.natAbs with y | z
    · exact ⟨.y, y.symm⟩
    · exact ⟨.z, z.symm⟩

theorem toNat_events_le (m : Move) : m.events.toNat ≤ 2 ^ 31 := by
  obtain ⟨axis, longest⟩ := m.exists_longest
  have low := (m.steps.get axis).le_toInt
  have high := (m.steps.get axis).toInt_lt
  omega

theorem events_eq_zero_iff (m : Move) : m.events = 0 ↔ ∀ axis, m.steps.get axis = 0 := by
  rw [← UInt32.toNat_inj, UInt32.toNat_zero]
  constructor
  · intro none axis
    have least := m.natAbs_le_events axis
    rw [← Int32.toInt_inj, Int32.toInt_zero]
    omega
  · intro still
    obtain ⟨axis, longest⟩ := m.exists_longest
    rw [← longest, still axis]
    rfl

theorem contains_directions (m : Move) (axis : Axis) :
    m.directions.contains (Lines.direction axis) = decide (m.steps.get axis < 0) := by
  rw [Lines.contains_direction, directions,
    Lines.testBit_foldl_or (fun axis => m.steps.get axis < 0)]
  simp only [← Lines.contains_direction, Lines.contains_direction_direction, Lines.any_due_eq,
    Axis.mem_all, true_and]
  cases axis <;> exact Bool.false_or _

theorem directionLines_directions (m : Move) : m.directions.directionLines = m.directions := by
  refine List.foldlRecOn (motive := fun image : Lines => image.directionLines = image)
    Axis.all _ rfl ?_
  intro image only axis _
  split
  · rw [Lines.directionLines_or, only, Lines.directionLines_direction]
  · exact only

variable {m : Move} {b : Block}

/-- What a move needs besides a step: a length, a speed to cruise at, a speed of entry that is not
above it, and an acceleration. -/
structure Feasible (m : Move) : Prop where
  length : usable m.length = true
  nominal : usable m.nominal.value = true
  entry_finite : m.entry.value.isFinite = true
  entry_nonneg : ¬ m.entry.value < 0.0
  entry_le : ¬ m.nominal.value < m.entry.value
  acceleration : usable m.acceleration.value = true

@[simps]
def block (m : Move) : Block :=
  { steps := m.steps.map magnitude
    events := m.events
    directions := m.directions
    entrySquared := m.entry.squared
    nominalSquared := m.nominal.squared
    acceleration := m.acceleration.value
    length := m.length }

theorem build_of_feasible (m : Move) (eventful : m.events ≠ 0) (feasible : m.Feasible) :
    m.build = .ok m.block := by
  have entry : ¬ (¬ m.entry.value.isFinite = true ∨ m.entry.value < 0.0) :=
    not_or.mpr ⟨not_not.mpr feasible.entry_finite, feasible.entry_nonneg⟩
  rw [build, if_neg eventful, if_neg (not_not.mpr feasible.length),
    if_neg (not_not.mpr feasible.nominal), if_neg entry, if_neg feasible.entry_le,
    if_neg (not_not.mpr feasible.acceleration)]
  rfl

theorem build_of_infeasible (m : Move) (eventful : m.events ≠ 0) (infeasible : ¬ m.Feasible) :
    ∃ cause, m.build = .error cause ∧ cause ≠ .empty := by
  rw [build, if_neg eventful]
  split
  · exact ⟨_, rfl, nofun⟩
  · next length =>
    split
    · exact ⟨_, rfl, nofun⟩
    · next nominal =>
      split
      · exact ⟨_, rfl, nofun⟩
      · next entry =>
        obtain ⟨entry_finite, entry_nonneg⟩ := not_or.mp entry
        split
        · exact ⟨_, rfl, nofun⟩
        · next entry_le =>
          split
          · exact ⟨_, rfl, nofun⟩
          · next acceleration =>
            exact absurd ⟨not_not.mp length, not_not.mp nominal, not_not.mp entry_finite,
              entry_nonneg, entry_le, not_not.mp acceleration⟩ infeasible

theorem build_cases (m : Move) :
    m.events = 0 ∧ m.build = .error .empty ∨
      m.events ≠ 0 ∧ m.Feasible ∧ m.build = .ok m.block ∨
      m.events ≠ 0 ∧ ∃ cause, m.build = .error cause ∧ cause ≠ .empty := by
  by_cases none : m.events = 0
  · exact .inl ⟨none, if_pos none⟩
  · by_cases feasible : m.Feasible
    · exact .inr (.inl ⟨none, feasible, m.build_of_feasible none feasible⟩)
    · exact .inr (.inr ⟨none, m.build_of_infeasible none feasible⟩)

theorem build_eq_ok (built : m.build = .ok b) : m.events ≠ 0 ∧ m.Feasible ∧ b = m.block := by
  rcases m.build_cases with ⟨_, refused⟩ | ⟨eventful, feasible, builds⟩ | ⟨_, cause, refused, _⟩
  · rw [refused] at built
    contradiction
  · rw [builds] at built
    exact ⟨eventful, feasible, (Except.ok.inj built).symm⟩
  · rw [refused] at built
    contradiction

theorem build_eq_error_empty_iff (m : Move) :
    m.build = .error .empty ↔ ∀ axis, m.steps.get axis = 0 := by
  rw [← events_eq_zero_iff]
  rcases m.build_cases with
    ⟨none, refused⟩ | ⟨eventful, _, builds⟩ | ⟨eventful, cause, refused, other⟩
  · exact iff_of_true refused none
  · rw [builds]
    exact iff_of_false nofun eventful
  · rw [refused]
    exact iff_of_false (fun same => other (Except.error.inj same)) eventful

/-- A block is built of every move that has a step and is feasible, and of no other. -/
theorem exists_build_iff (m : Move) :
    (∃ b, m.build = .ok b) ↔ (∃ axis, m.steps.get axis ≠ 0) ∧ m.Feasible := by
  constructor
  · rintro ⟨b, built⟩
    obtain ⟨eventful, feasible, _⟩ := build_eq_ok built
    exact ⟨not_forall.mp fun still => eventful (m.events_eq_zero_iff.mpr still), feasible⟩
  · rintro ⟨⟨axis, moves⟩, feasible⟩
    have eventful : m.events ≠ 0 := fun none => moves (m.events_eq_zero_iff.mp none axis)
    exact ⟨m.block, m.build_of_feasible eventful feasible⟩

theorem toNat_steps_block (m : Move) (axis : Axis) :
    (m.block.steps.get axis).toNat = (m.steps.get axis).toInt.natAbs := by
  rw [block_steps, PerAxis.get_map, toNat_magnitude]

theorem signedSteps_block (m : Move) (axis : Axis) :
    m.block.signedSteps axis = (m.steps.get axis).toInt := by
  have sense : m.block.isNegative axis = decide ((m.steps.get axis).toInt < 0) := by
    rw [Block.isNegative, block_directions, contains_directions]
    exact decide_eq_decide.mpr Int32.lt_iff_toInt_lt
  rw [Block.signedSteps, sense, toNat_steps_block]
  simp only [decide_eq_true_eq]
  split
  · next below => exact (Int.eq_neg_natAbs_of_nonpos (Int.le_of_lt below)).symm
  · next above => exact Int.natAbs_of_nonneg (Int.not_lt.mp above)

theorem toNat_steps_build (built : m.build = .ok b) (axis : Axis) :
    (b.steps.get axis).toNat = (m.steps.get axis).toInt.natAbs := by
  obtain ⟨_, _, rfl⟩ := build_eq_ok built
  exact m.toNat_steps_block axis

theorem signedSteps_build (built : m.build = .ok b) (axis : Axis) :
    b.signedSteps axis = (m.steps.get axis).toInt := by
  obtain ⟨_, _, rfl⟩ := build_eq_ok built
  exact m.signedSteps_block axis

theorem regular_build (built : m.build = .ok b) : b.Regular := by
  have steps := toNat_steps_build built
  obtain ⟨eventful, feasible, rfl⟩ := build_eq_ok built
  refine { eventful := ?_, steps_le := ?_, longest := ?_, decelerates := ?_ }
  · exact UInt32.lt_iff_toNat_lt.mp (UInt32.pos_iff_ne_zero.mpr eventful)
  · intro axis
    rw [steps axis]
    exact m.natAbs_le_events axis
  · obtain ⟨axis, longest⟩ := m.exists_longest
    exact ⟨axis, UInt32.toNat_inj.mp ((steps axis).trans longest)⟩
  · exact Block.decelerates_of_bounds (zero_le_of_usable feasible.length)
      (zero_le_squared feasible.nominal)

def uneven : Move :=
  { steps := ⟨10, 5, 0⟩, length := 1.0, nominal := ⟨600.0⟩, acceleration := ⟨36000.0⟩ }

end Move

def Block.uneven : Block :=
  { steps := ⟨10, 5, 0⟩, events := 10, directions := Lines.none, entrySquared := 0.0
    nominalSquared := 360000.0, acceleration := 36000.0, length := 1.0 }

theorem Move.build_uneven : Move.uneven.build = .ok .uneven := by
  rfl

end StepPulse
