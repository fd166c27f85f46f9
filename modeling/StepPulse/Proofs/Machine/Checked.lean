import StepPulse.Proofs.Machine.InverseTime
import StepPulse.Proofs.Machine.Stock

/-! The tick with each sum and difference checked against a word of 64 bits. -/

namespace StepPulse

open Machine

variable {H : Type} {capacity : Nat}

def Wide (n : Int) : Prop := -2 ^ 63 ≤ n ∧ n < 2 ^ 63

instance : DecidablePred Wide := fun _ => inferInstanceAs (Decidable (_ ∧ _))

def wide? (n : Int) : Option Int := if Wide n then some n else none

theorem wide?_of_wide {n : Int} (fits : Wide n) : wide? n = some n := if_pos fits

theorem eq_of_wide? {n k : Int} (fits : wide? n = some k) : k = n := by
  rw [wide?] at fits
  split at fits
  · exact (Option.some.inj fits).symm
  · contradiction

def drawCounter? (counter : Int) (steps events : UInt32) : Option Int := do
  let drawn ← wide? (counter - steps.toNat)
  if drawn < 0 then wide? (drawn + events.toNat) else some drawn

namespace Machine

def stepEvent? (rig : Rig H) (m : Machine H capacity) : Option (Machine H capacity) := do
  let b := m.runtime.block
  let x ← drawCounter? m.runtime.counters.x b.steps.x b.events
  let y ← drawCounter? m.runtime.counters.y b.steps.y b.events
  let z ← drawCounter? m.runtime.counters.z b.steps.z b.events
  let next := stepEvent rig m
  return { next with runtime := { next.runtime with counters := ⟨x, y, z⟩ } }

def advance? (rig : Rig H) (m : Machine H capacity) (loadsBlock : Bool) :
    Option (Machine H capacity) := do
  let rate := (nextRamp rig m).ratePerTick rig.settings.minimumStepRate
  let distance ← wide? (m.runtime.distance - rate.toNat)
  if distance < 0 ∧ ¬ loadsBlock then
    let distance ← wide? (distance + stepDistance m)
    let next ← stepEvent? rig (paced rig m distance)
    return next.setBusy false
  else return (paced rig m distance).setBusy false

def execute? (rig : Rig H) (m : Machine H capacity) : Option (Machine H capacity) :=
  if m.runtime.load = .nothing then advance? rig m false
  else if m.runState = .hold then some (finishHold rig m)
  else
    match m.pipeline.segments.peek? with
    | none => some (finishCycle rig m)
    | some s =>
      let loadsBlock := m.runtime.load == .block
      let m := loadSegment m s
      if loadsBlock then
        match m.planner.current? with
        | none => some (enterAlarm rig m)
        | some b => advance? rig (finishLoad rig (loadBlock rig m b.active)) true
      else advance? rig (finishLoad rig m) false

def tick? (rig : Rig H) (m : Machine H capacity) : Option (Machine H capacity) :=
  if m.runtime.busy then some m
  else
    match applyStaged rig m with
    | (.error _, m) => some (enterAlarm rig m)
    | (.ok (), m) => execute? rig (m.setBusy true)

section Draw

variable {counter : Int} {steps events : UInt32}

theorem drawCounter?_eq (nonneg : 0 ≤ counter) (le : counter ≤ events.toNat)
    (steps_le : steps.toNat ≤ events.toNat) :
    drawCounter? counter steps events =
      some (if counter - steps.toNat < 0 then counter - steps.toNat + events.toNat
        else counter - steps.toNat) := by
  have word := events.toNat_lt
  have drawn : Wide (counter - steps.toNat) := by
    constructor <;> omega
  simp only [drawCounter?, wide?_of_wide drawn, Option.bind_eq_bind, Option.bind_some]
  by_cases due : counter - (steps.toNat : Int) < 0
  · have refilled : Wide (counter - steps.toNat + events.toNat) := by
      constructor <;> omega
    rw [if_pos due, if_pos due, wide?_of_wide refilled]
  · rw [if_neg due, if_neg due]

theorem drawCounter?_exact {drawn : Int} (drew : drawCounter? counter steps events = some drawn) :
    drawn = if counter - steps.toNat < 0 then counter - steps.toNat + events.toNat
      else counter - steps.toNat := by
  obtain ⟨lowered, fits, filled⟩ := Option.bind_eq_some_iff.mp drew
  obtain rfl := eq_of_wide? fits
  split at filled
  · next due =>
    rw [if_pos due]
    exact eq_of_wide? filled
  · next rest =>
    rw [if_neg rest]
    exact (Option.some.inj filled).symm

theorem drawn_within (nonneg : 0 ≤ counter) (le : counter ≤ events.toNat)
    (steps_le : steps.toNat ≤ events.toNat) :
    0 ≤ (if counter - steps.toNat < 0 then counter - steps.toNat + events.toNat
        else counter - steps.toNat) ∧
      (if counter - steps.toNat < 0 then counter - steps.toNat + events.toNat
        else counter - steps.toNat) ≤ (events.toNat : Int) := by
  split <;> omega

end Draw

/-- Each counter lies between nothing and the event count of the active block, of which no axis has
more steps. -/
structure Counted (m : Machine H capacity) : Prop where
  steps_le : ∀ axis, (m.runtime.block.steps.get axis).toNat ≤ m.runtime.block.events.toNat
  nonneg : ∀ axis, 0 ≤ m.runtime.counters.get axis
  le : ∀ axis, m.runtime.counters.get axis ≤ m.runtime.block.events.toNat

namespace Counted

variable {rig : Rig H} {m m' : Machine H capacity}

theorem congr (counted : Counted m) (counters : m'.runtime.counters = m.runtime.counters)
    (block : m'.runtime.block = m.runtime.block) : Counted m' := by
  constructor
  · rw [block]
    exact counted.steps_le
  · rw [counters]
    exact counted.nonneg
  · rw [counters, block]
    exact counted.le

theorem wide (counted : Counted m) (axis : Axis) : Wide (m.runtime.counters.get axis) := by
  have nonneg := counted.nonneg axis
  have le := counted.le axis
  have word := m.runtime.block.events.toNat_lt
  constructor <;> omega

theorem drawCounter?_eq (counted : Counted m) (rig : Rig H) (axis : Axis) :
    drawCounter? (m.runtime.counters.get axis) (m.runtime.block.steps.get axis)
      m.runtime.block.events = some ((Machine.stepEvent rig m).runtime.counters.get axis) := by
  rw [Machine.drawCounter?_eq (counted.nonneg axis) (counted.le axis) (counted.steps_le axis)]
  cases axis <;> rfl

theorem stepEvent?_eq (counted : Counted m) (rig : Rig H) :
    stepEvent? rig m = some (Machine.stepEvent rig m) := by
  have x := counted.drawCounter?_eq rig .x
  have y := counted.drawCounter?_eq rig .y
  have z := counted.drawCounter?_eq rig .z
  simp only [PerAxis.get] at x y z
  simp only [stepEvent?, x, y, z]
  rfl

theorem stepEvent (counted : Counted m) (rig : Rig H) : Counted (Machine.stepEvent rig m) := by
  refine { steps_le := counted.steps_le, nonneg := fun axis => ?_, le := fun axis => ?_ }
  · have within := drawn_within (counted.nonneg axis) (counted.le axis) (counted.steps_le axis)
    cases axis <;> exact within.1
  · have within := drawn_within (counted.nonneg axis) (counted.le axis) (counted.steps_le axis)
    cases axis <;> exact within.2

theorem reset (m : Machine H capacity) : Counted m.reset := by
  constructor
  · intro axis
    cases axis <;> exact Nat.le_refl 0
  · intro axis
    cases axis <;> exact Int.le_refl 0
  · intro axis
    cases axis <;> exact Int.le_refl 0

theorem loadBlock (rig : Rig H) (m : Machine H capacity) {b : Block}
    (steps_le : ∀ axis, (b.steps.get axis).toNat ≤ b.events.toNat) :
    Counted (Machine.loadBlock rig m b.active) := by
  have half : (b.events >>> 1).toNat ≤ b.events.toNat := by
    rw [UInt32.toNat_shiftRight]
    exact Nat.shiftRight_le _ _
  refine { steps_le := steps_le, nonneg := fun axis => ?_, le := fun axis => ?_ }
  · show 0 ≤ (PerAxis.constant ((b.events >>> 1).toNat : Int)).get axis
    rw [PerAxis.get_constant]
    exact Int.natCast_nonneg _
  · show (PerAxis.constant ((b.events >>> 1).toNat : Int)).get axis ≤ (b.events.toNat : Int)
    rw [PerAxis.get_constant]
    exact Int.ofNat_le.mpr half

end Counted

section Tick

variable {rig : Rig H} {m : Machine H capacity} {loadsBlock : Bool}

theorem advance?_eq (counted : Counted m) (drawn : Wide (nextDistance rig m))
    (added : nextDistance rig m < 0 → loadsBlock = false →
      Wide (nextDistance rig m + stepDistance m)) :
    advance? rig m loadsBlock = some (advance rig m loadsBlock) := by
  have drawn' : wide? (m.runtime.distance -
      ((nextRamp rig m).ratePerTick rig.settings.minimumStepRate).toNat) =
      some (nextDistance rig m) := wide?_of_wide drawn
  simp only [advance?, drawn', Option.bind_eq_bind, Option.bind_some]
  by_cases due : nextDistance rig m < 0 ∧ ¬ loadsBlock = true
  · have sum := wide?_of_wide (added due.1 (Bool.eq_false_iff.mpr due.2))
    have counted' : Counted (paced rig m (nextDistance rig m + stepDistance m)) :=
      counted.congr rfl rfl
    rw [if_pos due, sum, advance_of_due due, Option.bind_some, counted'.stepEvent?_eq rig]
    rfl
  · rw [if_neg due, advance_of_not_due due]
    rfl

/-- An execution advances, or it computes nothing and leaves the motion as it is. -/
theorem execute?_cases (rig : Rig H) (m : Machine H capacity) :
    (∃ ready loadsBlock, Loads rig m ready loadsBlock ∧
      execute rig m = advance rig ready loadsBlock ∧
      execute? rig m = advance? rig ready loadsBlock) ∨
      execute? rig m = some (execute rig m) ∧ Unmoved m (execute rig m) ∧
        (m.runtime.load ≠ .block → Still m (execute rig m)) := by
  by_cases load : m.runtime.load = .nothing
  · left
    exact ⟨m, false, .nothing load, execute_loaded load, if_pos load⟩
  by_cases hold : m.runState = .hold
  · right
    have still := still_finishHold rig m
    rw [execute_held load hold]
    exact ⟨by simp only [execute?, if_neg load, if_pos hold], still.unmoved, fun _ => still⟩
  cases peeked : m.pipeline.segments.peek? with
  | none =>
      right
      have still := still_finishCycle rig m
      rw [execute_dry load hold peeked]
      exact ⟨by simp only [execute?, if_neg load, if_neg hold, peeked], still.unmoved,
        fun _ => still⟩
  | some s =>
      cases due : m.runtime.load with
      | nothing => exact absurd due load
      | segment =>
          left
          exact ⟨_, false, .segment due peeked, execute_segment due hold peeked,
            by simp [execute?, due, if_neg hold, peeked]⟩
      | block =>
          cases current : m.planner.current? with
          | none =>
              right
              have current' : (loadSegment m s).planner.current? = none := current
              have alarmed := (still_enterAlarm rig (loadSegment m s)).unmoved
              rw [execute_orphaned due hold peeked current]
              exact ⟨by simp [execute?, due, if_neg hold, peeked, current'],
                (unmoved_loadSegment m s).trans alarmed, fun other => absurd rfl other⟩
          | some b =>
              left
              have current' : (loadSegment m s).planner.current? = some b := current
              exact ⟨_, true, .block due peeked current, execute_block due hold peeked current,
                by simp [execute?, due, if_neg hold, peeked, current']⟩

theorem tick?_cases (rig : Rig H) (m : Machine H capacity) :
    (∃ m₀ ready loadsBlock, Still m m₀ ∧ Loads rig m₀ ready loadsBlock ∧
      m.tick rig = advance rig ready loadsBlock ∧ m.tick? rig = advance? rig ready loadsBlock) ∨
      m.tick? rig = some (m.tick rig) ∧ Unmoved m (m.tick rig) ∧
        (m.runtime.load ≠ .block → Still m (m.tick rig)) := by
  cases busy : m.runtime.busy with
  | true =>
      right
      rw [tick_busy busy]
      exact ⟨if_pos busy, (Still.refl m).unmoved, fun _ => Still.refl m⟩
  | false =>
      rcases tick_acts rig busy with ⟨cause, m₀, refused, same⟩ | ⟨m₀, taken, same⟩
      · right
        have alarmed := still_alarmed refused
        rw [same]
        exact ⟨by simp [tick?, busy, refused], alarmed.unmoved, fun _ => alarmed⟩
      · have guarded := still_begun taken
        have checked : m.tick? rig = execute? rig (m₀.setBusy true) := by
          simp [tick?, busy, taken]
        rw [same, checked]
        rcases execute?_cases rig (m₀.setBusy true) with
          ⟨ready, loadsBlock, loads, same⟩ | ⟨same, unmoved, rests⟩
        · exact Or.inl ⟨_, ready, loadsBlock, guarded, loads, same⟩
        · refine Or.inr ⟨same, guarded.unmoved.trans unmoved, fun other => ?_⟩
          rw [← guarded.load] at other
          exact guarded.trans (rests other)

/-! Where there is a result, it is that of the unchecked computation. -/

section Exact

variable {m' : Machine H capacity}

theorem stepEvent?_exact (stepped : stepEvent? rig m = some m') : m' = stepEvent rig m := by
  obtain ⟨x, drewX, stepped⟩ := Option.bind_eq_some_iff.mp stepped
  obtain ⟨y, drewY, stepped⟩ := Option.bind_eq_some_iff.mp stepped
  obtain ⟨z, drewZ, stepped⟩ := Option.bind_eq_some_iff.mp stepped
  obtain rfl := Option.some.inj stepped
  obtain rfl := drawCounter?_exact drewX
  obtain rfl := drawCounter?_exact drewY
  obtain rfl := drawCounter?_exact drewZ
  rfl

theorem advance?_exact (advanced : advance? rig m loadsBlock = some m') :
    m' = advance rig m loadsBlock := by
  obtain ⟨distance, fits, advanced⟩ := Option.bind_eq_some_iff.mp advanced
  obtain rfl : distance = nextDistance rig m := eq_of_wide? fits
  split at advanced
  · next due =>
    obtain ⟨sum, fits, advanced⟩ := Option.bind_eq_some_iff.mp advanced
    obtain ⟨next, stepped, advanced⟩ := Option.bind_eq_some_iff.mp advanced
    obtain rfl := eq_of_wide? fits
    obtain rfl := stepEvent?_exact stepped
    rw [advance_of_due due]
    exact (Option.some.inj advanced).symm
  · next rest =>
    rw [advance_of_not_due rest]
    exact (Option.some.inj advanced).symm

theorem tick?_exact (ticked : m.tick? rig = some m') : m' = m.tick rig := by
  rcases tick?_cases rig m with ⟨_, _, _, _, _, ticks, checked⟩ | ⟨checked, _⟩
  · rw [ticks]
    exact advance?_exact (checked.symm.trans ticked)
  · exact Option.some.inj (ticked.symm.trans checked)

end Exact

end Tick

end Machine

end StepPulse
