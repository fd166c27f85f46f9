import StepPulse.Proofs.Machine.Alignment
import StepPulse.Proofs.Machine.Run
import StepPulse.Proofs.Machine.Stepping

/-!
The passage through a block. Beside the machine it is kept where the machine stood when the planner
last lost a block, and how many step events took place in each stint since then; a stint begins with
a load of the block. Within a stint each axis follows the line of the block, and the block is left
when the stints together have made up its events.
-/

namespace StepPulse

open Machine

variable {H : Type} {capacity : Nat}

structure Trip where
  origin : PerAxis Steps
  /-- The step events since each load of the front block, the latest first. -/
  stints : List Nat := []
  deriving DecidableEq, Repr

namespace Trip

def begun (t : Trip) : Trip := { t with stints := 0 :: t.stints }

def moved (t : Trip) : Trip := { t with stints := t.stints.modifyHead (· + 1) }

/-- A stint begins with a block load, and each step event moves the machine. -/
def extend (m m' : Machine H capacity) (t : Trip) : Trip :=
  let t := if m.runtime.load = .block ∧ m'.runtime.load = .nothing then t.begun else t
  if m'.position = m.position then t else t.moved

def record : Recorder H capacity Trip := fun m _ m' t =>
  if m'.planner.tail = m.planner.tail then t.extend m m' else { origin := m'.position }

end Trip

theorem BlockQueue.tail_discard_ne {q : BlockQueue capacity} {b : Block} {blocks : List Block}
    (planned : q.blocks = b :: blocks) : q.discard.tail ≠ q.tail := by
  rw [discard_of_planned planned]
  intro same
  have one : (1 : UInt64) = 0 := UInt64.add_eq_left.mp same
  contradiction

def Block.dueIn (b : Block) (axis : Axis) (stints : List Nat) : Nat :=
  (stints.map (b.due axis)).sum

theorem Block.dueIn_begun (b : Block) (axis : Axis) (t : Trip) :
    b.dueIn axis t.begun.stints = b.dueIn axis t.stints := by
  rw [Trip.begun, dueIn, List.map_cons, List.sum_cons, due, stepsDue_zero, Nat.zero_add, dueIn]

def Machine.executed (m : Machine H capacity) : Nat :=
  if m.runtime.load = .nothing then
    m.runtime.segment.steps.toNat - m.runtime.stepsRemaining.toNat
  else 0

theorem Machine.executed_of_due {m : Machine H capacity} (due : m.runtime.load ≠ .nothing) :
    m.executed = 0 := if_neg due

theorem Machine.executed_of_loaded {m : Machine H capacity} (load : m.runtime.load = .nothing) :
    m.executed = m.runtime.segment.steps.toNat - m.runtime.stepsRemaining.toNat := if_pos load

namespace Coherent

variable {settings : Settings} {m : Machine H capacity} {first : Nat}

inductive Reaches (m m' : Machine H capacity) (first : Nat) (b : Block) : Prop
  | amid :
      m'.planner = m.planner → m'.runtime.load ≠ .block →
      passed m first + m'.executed = first + m.executed + 1 →
      first + m.executed + 1 < b.events.toNat → Reaches m m' first b
  | ends :
      m'.planner = m.planner.discard → m'.runtime.load = .block → passed m first = 0 →
      first + m.executed + 1 = b.events.toNat → Reaches m m' first b

theorem reaches (rig : Rig H) (coherent : Coherent settings m first)
    (load : m.runtime.load = .nothing) {b : Block} {blocks : List Block}
    (planned : m.planner.blocks = b :: blocks) : Reaches m (Machine.stepEvent rig m) first b := by
  obtain ⟨_, b', _, _, _, planned', cut⟩ := coherent.front (coherent.executing load)
  obtain ⟨rfl, _⟩ := List.cons.inj (planned.symm.trans planned')
  have left := toNat_stepsRemaining_stepEvent rig m
  have positive := coherent.left load
  have bound := coherent.within load
  have within := cut.within
  have taken : m.executed = _ := executed_of_loaded load
  cases completion rig m with
  | within more planner _ loaded =>
      have passes : passed m first = first := if_pos more
      have executed : (Machine.stepEvent rig m).executed =
          m.runtime.segment.steps.toNat - (Machine.stepEvent rig m).runtime.stepsRemaining.toNat :=
        executed_of_loaded (loaded.trans load)
      apply Reaches.amid planner
      · rw [loaded, load]
        decide
      · omega
      · omega
  | segment last open_ planner _ due =>
      have passes : passed m first = first + m.runtime.segment.steps.toNat := by
        rw [passed, if_neg (Nat.not_lt.mpr last), open_]
        rfl
      have executed : (Machine.stepEvent rig m).executed = 0 :=
        executed_of_due (ne_of_eq_of_ne due (by decide))
      -- The segment is not the last of its block, which goes on behind it.
      have goesOn : first + m.runtime.segment.steps.toNat ≠ b.events.toNat := by
        intro whole
        have closed := cut.ends.mpr whole
        rw [open_] at closed
        contradiction
      apply Reaches.amid planner
      · rw [due]
        decide
      · omega
      · omega
  | block last closed planner _ due =>
      have whole := cut.ends.mp closed
      apply Reaches.ends planner due
      · rw [passed, if_neg (Nat.not_lt.mpr last), if_pos closed]
      · omega

end Coherent

/-- The machine is where its trip has brought it; `first` events of the front block lie before the
ring. -/
structure OnCourse (settings : Settings) (m : Machine H capacity) (t : Trip) (first : Nat) :
    Prop where
  coherent : Coherent settings m first
  regular : ∀ b ∈ m.planner.blocks, b.Regular
  travelled : t.stints.sum = first + m.executed
  poised : m.runtime.load ≠ .block → ∃ b blocks n earlier,
    m.planner.blocks = b :: blocks ∧ t.stints = n :: earlier ∧ Poised b n m
  displaced : ∀ b, m.planner.current? = some b → ∀ axis,
    m.position.get axis = t.origin.get axis + b.sense axis * b.dueIn axis t.stints
  unmoved : m.planner.blocks = [] → t.stints = [] ∧ m.position = t.origin

/-- How a trip stands after an operation: it goes on, or a block is crossed and the next trip
begins. -/
inductive Passes (settings : Settings) (m m' : Machine H capacity) (t : Trip) : Prop
  | goesOn {first : Nat} :
      m'.planner = m.planner → OnCourse settings m' t first → Passes settings m m' t
  | crosses {b : Block} {blocks : List Block} :
      m.planner.blocks = b :: blocks → m'.planner = m.planner.discard →
      t.stints.sum = b.events.toNat →
      (∀ axis, m'.position.get axis =
        t.origin.get axis + b.sense axis * b.dueIn axis t.stints) →
      OnCourse settings m' { origin := m'.position } 0 → Passes settings m m' t

namespace OnCourse

variable {rig : Rig H} {settings : Settings} {m m' ready : Machine H capacity} {t : Trip}
  {first : Nat} {loadsBlock : Bool}

theorem regular_of_planned {b : Block} {blocks : List Block}
    (onCourse : OnCourse settings m t first) (planned : m.planner.blocks = b :: blocks) :
    b.Regular := by
  apply onCourse.regular b
  rw [planned]
  exact List.mem_cons_self ..

theorem congr (onCourse : OnCourse settings m t first) (coherent : Coherent settings m' first)
    (planner : m'.planner = m.planner) (position : m'.position = m.position)
    (load : m'.runtime.load = m.runtime.load)
    (segment : m'.runtime.segment = m.runtime.segment)
    (stepsRemaining : m'.runtime.stepsRemaining = m.runtime.stepsRemaining)
    (block : m'.runtime.block = m.runtime.block)
    (counters : m'.runtime.counters = m.runtime.counters) : OnCourse settings m' t first := by
  refine
    { coherent := coherent, regular := ?_, travelled := ?_, poised := ?_, displaced := ?_
      unmoved := ?_ }
  · rw [planner]
    exact onCourse.regular
  · rw [onCourse.travelled, executed, executed, load, segment, stepsRemaining]
  · rw [load, planner]
    intro other
    obtain ⟨b, blocks, n, earlier, planned, stints, poised⟩ := onCourse.poised other
    exact ⟨b, blocks, n, earlier, planned, stints, poised.congr block counters⟩
  · rw [planner, position]
    exact onCourse.displaced
  · rw [planner, position]
    exact onCourse.unmoved

theorem still (onCourse : OnCourse settings m t first) (still : Still m m') :
    OnCourse settings m' t first :=
  onCourse.congr (onCourse.coherent.still still) still.planner still.position still.load
    still.segment still.stepsRemaining still.block still.counters

theorem begins (coherent : Coherent settings m 0) (regular : ∀ b ∈ m.planner.blocks, b.Regular)
    (due : m.runtime.load = .block) : OnCourse settings m { origin := m.position } 0 := by
  refine
    { coherent := coherent, regular := regular, travelled := ?_
      poised := fun other => absurd due other, displaced := ?_, unmoved := fun _ => ⟨rfl, rfl⟩ }
  · rw [executed_of_due (ne_of_eq_of_ne due (by decide))]
    rfl
  · intro b _ axis
    simp [Block.dueIn]

protected theorem fresh (settings : Settings) (hardware : H) (origin : PerAxis Steps)
    {q : BlockQueue capacity} (regular : ∀ b ∈ q.blocks, b.Regular) :
    OnCourse settings { Machine.fresh hardware q with position := origin } { origin := origin }
      0 := by
  have eventful : ∀ b ∈ q.blocks, b.events ≠ 0 := by
    intro b member none
    have positive := (regular b member).eventful
    rw [none] at positive
    contradiction
  have coherent := Coherent.fresh settings hardware eventful
  exact begins (coherent.congr rfl rfl rfl rfl rfl) regular rfl

/-- A block load may be asked for between two segments, but not within one. -/
theorem requestBlock (onCourse : OnCourse settings m t first) (due : m.runtime.load ≠ .nothing) :
    OnCourse settings m.requestBlock t first := by
  refine
    { coherent := onCourse.coherent.requestBlock, regular := onCourse.regular, travelled := ?_
      poised := fun other => absurd rfl other, displaced := onCourse.displaced
      unmoved := onCourse.unmoved }
  rw [onCourse.travelled, executed_of_due due, executed_of_due (m := m.requestBlock) nofun]

theorem queued (onCourse : OnCourse settings m t first) {b : Block} (regular : b.Regular)
    {number : UInt64} {planner : BlockQueue capacity}
    (pushed : m.planner.push b = .ok (number, planner)) :
    OnCourse settings { m with planner := planner } t first := by
  have coherent := onCourse.coherent.queued pushed
  obtain ⟨_, _, _, rfl⟩ := BlockQueue.push_eq_ok_iff.mp pushed
  refine
    { coherent := coherent, regular := ?_, travelled := onCourse.travelled, poised := ?_
      displaced := ?_, unmoved := ?_ }
  · intro b' member
    rcases List.mem_append.mp member with old | new
    · exact onCourse.regular b' old
    · rwa [List.mem_singleton.mp new]
  · intro other
    obtain ⟨b', blocks, n, earlier, planned, stints, poised⟩ := onCourse.poised other
    refine ⟨b', blocks ++ [b], n, earlier, ?_, stints, poised.congr rfl rfl⟩
    show m.planner.blocks ++ [b] = _
    rw [planned, List.cons_append]
  · intro b' current axis
    have front : (m.planner.blocks ++ [b]).head? = some b' := current
    cases planned : m.planner.blocks with
    | nil =>
        obtain ⟨stints, position⟩ := onCourse.unmoved planned
        show m.position.get axis = _
        rw [stints, position]
        simp [Block.dueIn]
    | cons b'' blocks =>
        rw [planned] at front
        refine onCourse.displaced b' ?_ axis
        rw [BlockQueue.current?, planned]
        exact front
  · intro empty
    have none : m.planner.blocks ++ [b] = [] := empty
    simp at none

theorem fill (onCourse : OnCourse settings m t first) {sizing : Sizing} {room count : Nat}
    {p : Pipeline}
    (filled : m.pipeline.fill m.planner.source sizing settings room = .ok (p, count)) :
    OnCourse settings { m with pipeline := p } t first :=
  onCourse.congr (onCourse.coherent.fill filled) rfl rfl rfl rfl rfl rfl rfl

theorem loads (onCourse : OnCourse settings m t first) (loads : Loads rig m ready loadsBlock) :
    OnCourse settings ready (if loadsBlock then t.begun else t) first := by
  have coherent := onCourse.coherent.loads loads
  have load := loads.load
  cases loads with
  | nothing => exact onCourse
  | @segment s due peeked =>
      refine
        { coherent := coherent, regular := onCourse.regular, travelled := ?_, poised := ?_
          displaced := onCourse.displaced, unmoved := onCourse.unmoved }
      · have travelled := onCourse.travelled
        rw [executed_of_due (ne_of_eq_of_ne due (by decide))] at travelled
        rw [executed_of_loaded load]
        show t.stints.sum = first + (s.steps.toNat - s.steps.toNat)
        omega
      · intro _
        obtain ⟨b, blocks, n, earlier, planned, stints, poised⟩ :=
          onCourse.poised (ne_of_eq_of_ne due (by decide))
        exact ⟨b, blocks, n, earlier, planned, stints, poised.congr rfl rfl⟩
  | @block s b due peeked current =>
      obtain ⟨blocks, planned⟩ := List.head?_eq_some_iff.mp current
      have regular := onCourse.regular_of_planned planned
      refine
        { coherent := coherent, regular := onCourse.regular, travelled := ?_, poised := ?_
          displaced := ?_, unmoved := ?_ }
      · have travelled := onCourse.travelled
        rw [executed_of_due (ne_of_eq_of_ne due (by decide))] at travelled
        rw [executed_of_loaded load]
        show (0 :: t.stints).sum = first + (s.steps.toNat - s.steps.toNat)
        rw [List.sum_cons]
        omega
      · intro _
        exact ⟨b, blocks, 0, t.stints, planned, rfl,
          (Poised.loadBlock rig regular (loadSegment m s)).congr rfl rfl⟩
      · intro b' current' axis
        apply (onCourse.displaced b' current' axis).trans
        rw [if_pos rfl, b'.dueIn_begun]
        rfl
      · intro empty
        have none : m.planner.blocks = [] := empty
        rw [planned] at none
        contradiction

theorem paced (onCourse : OnCourse settings m t first) (distance : Int) :
    OnCourse settings (m.paced rig distance) t first :=
  onCourse.congr (onCourse.coherent.paced _) rfl rfl rfl rfl rfl rfl rfl

theorem sum_stints_lt {b : Block} {blocks : List Block} (onCourse : OnCourse settings m t first)
    (load : m.runtime.load = .nothing) (planned : m.planner.blocks = b :: blocks) :
    t.stints.sum < b.events.toNat := by
  obtain ⟨_, b', _, _, _, planned', cut⟩ := onCourse.coherent.front
    (onCourse.coherent.executing load)
  obtain ⟨rfl, _⟩ := List.cons.inj (planned.symm.trans planned')
  have some_left := onCourse.coherent.left load
  have positive := cut.positive
  have within := cut.within
  rw [onCourse.travelled, executed_of_loaded load]
  omega

theorem dueIn_moved {b : Block} (regular : b.Regular) (axis : Axis) {n : Nat} {earlier : List Nat}
    (stints : t.stints = n :: earlier) :
    b.dueIn axis t.moved.stints =
      b.dueIn axis t.stints + if b.stepsAt axis n then 1 else 0 := by
  rw [Trip.moved, stints, List.modifyHead_cons, Block.dueIn, Block.dueIn, List.map_cons,
    List.map_cons, List.sum_cons, List.sum_cons, Block.due_succ regular]
  omega

theorem sum_moved {n : Nat} {earlier : List Nat} (stints : t.stints = n :: earlier) :
    t.moved.stints.sum = t.stints.sum + 1 := by
  rw [Trip.moved, stints, List.modifyHead_cons, List.sum_cons, List.sum_cons]
  omega

theorem position_moved (rig : Rig H) {b : Block} {n : Nat} {earlier : List Nat}
    (onCourse : OnCourse settings m t first) (current : m.planner.current? = some b)
    (regular : b.Regular) (stints : t.stints = n :: earlier) (poised : Poised b n m)
    (axis : Axis) :
    (Machine.stepEvent rig m).position.get axis =
      t.origin.get axis + b.sense axis * b.dueIn axis t.moved.stints := by
  calc
    (Machine.stepEvent rig m).position.get axis
    _ = m.position.get axis + b.sense axis * (if b.stepsAt axis n then 1 else 0 : Nat) :=
      poised.position_stepEvent rig axis
    _ = t.origin.get axis + (b.sense axis * b.dueIn axis t.stints +
          b.sense axis * (if b.stepsAt axis n then 1 else 0 : Nat)) := by
      rw [onCourse.displaced b current, Int.add_assoc]
    _ = t.origin.get axis + b.sense axis * b.dueIn axis t.moved.stints := by
      rw [dueIn_moved regular axis stints, Int.natCast_add, Int.mul_add]

theorem moved {b : Block} {blocks : List Block} {n first' : Nat} {earlier : List Nat}
    (onCourse : OnCourse settings m t first) (planned : m.planner.blocks = b :: blocks)
    (stints : t.stints = n :: earlier) (poised : Poised b n m)
    (coherent : Coherent settings (Machine.stepEvent rig m) first')
    (planner : (Machine.stepEvent rig m).planner = m.planner)
    (travelled : t.moved.stints.sum = first' + (Machine.stepEvent rig m).executed) :
    OnCourse settings (Machine.stepEvent rig m) t.moved first' := by
  have regular := onCourse.regular_of_planned planned
  have current := BlockQueue.current?_of_planned planned
  have further : t.moved.stints = (n + 1) :: earlier := by
    rw [Trip.moved, stints, List.modifyHead_cons]
  refine
    { coherent := coherent, regular := ?_, travelled := travelled, poised := ?_
      displaced := ?_, unmoved := ?_ }
  · rw [planner]
    exact onCourse.regular
  · intro _
    rw [planner]
    exact ⟨b, blocks, n + 1, earlier, planned, further, poised.stepEvent rig regular⟩
  · intro b' current' axis
    rw [planner, current] at current'
    obtain rfl := Option.some.inj current'
    exact position_moved rig onCourse current regular stints poised axis
  · intro empty
    rw [planner, planned] at empty
    contradiction

theorem stepEvent (rig : Rig H) (onCourse : OnCourse settings m t first)
    (load : m.runtime.load = .nothing) : Passes settings m (Machine.stepEvent rig m) t.moved := by
  have coherent := onCourse.coherent.stepEvent rig load
  have travelled := onCourse.travelled
  obtain ⟨b, blocks, n, earlier, planned, stints, poised⟩ :=
    onCourse.poised (ne_of_eq_of_ne load (by decide))
  have sum := sum_moved stints
  cases onCourse.coherent.reaches rig load planned with
  | amid planner _ reached _ =>
      refine .goesOn planner (onCourse.moved planned stints poised coherent planner ?_)
      omega
  | ends planner due passes whole =>
      rw [passes] at coherent
      have position := position_moved rig onCourse (BlockQueue.current?_of_planned planned)
        (onCourse.regular_of_planned planned) stints poised
      have regular : ∀ b ∈ (Machine.stepEvent rig m).planner.blocks, b.Regular := by
        intro b'' member
        rw [planner, BlockQueue.blocks_discard] at member
        exact onCourse.regular b'' (List.mem_of_mem_tail member)
      -- The stints have made up all events.
      exact .crosses planned planner (by omega) position (begins coherent regular due)

theorem extend_of_resting (position : m'.position = m.position)
    (load : m'.runtime.load = m.runtime.load ∨ m'.runtime.load = .block) :
    t.extend m m' = t := by
  have other : ¬ (m.runtime.load = .block ∧ m'.runtime.load = .nothing) := by
    rintro ⟨due, done⟩
    rcases load with same | block
    · rw [same, due] at done
      contradiction
    · rw [block] at done
      contradiction
  rw [Trip.extend, if_neg other, if_pos position]

theorem extend_of_coasting (position : m'.position = m.position)
    (due : m.runtime.load = .block ↔ loadsBlock = true) (load : m'.runtime.load = .nothing) :
    t.extend m m' = if loadsBlock then t.begun else t := by
  rw [Trip.extend]
  simp only [due, load, and_true]
  exact if_pos position

theorem extend_of_stepping (position : m'.position ≠ m.position)
    (other : m.runtime.load ≠ .block) : t.extend m m' = t.moved := by
  rw [Trip.extend, if_neg position, if_neg fun begun => other begun.1]

theorem ticks (onCourse : OnCourse settings m t first) (ticks : Ticks rig m m') :
    Passes settings m m' (t.extend m m') := by
  cases ticks with
  | still still =>
      rw [extend_of_resting still.position (Or.inl still.load)]
      exact .goesOn still.planner (onCourse.still still)
  | orphaned still peeked missing =>
      exact absurd missing ((onCourse.coherent.still still).never_orphaned peeked)
  | @advanced m₀ ready _ loadsBlock still loads advances =>
      have loaded := (onCourse.still still).loads loads
      have planner := loads.planner.trans still.planner
      have position := loads.position.trans still.position
      have due := loads.due_iff
      rw [still.load] at due
      cases advances with
      | coasts =>
          have coasted : t.extend m ((ready.paced rig (nextDistance rig ready)).setBusy false) =
              if loadsBlock then t.begun else t :=
            extend_of_coasting position due loads.load
          rw [coasted]
          exact .goesOn planner ((loaded.paced _).still ⟨rfl, rfl, rfl, rfl⟩)
      | steps _ other =>
          let paced := ready.paced rig (nextDistance rig ready + stepDistance ready)
          have going : OnCourse settings paced t first := by
            rw [other] at loaded
            exact loaded.paced _
          have load : paced.runtime.load = .nothing := loads.load
          obtain ⟨b, blocks, n, earlier, planned, _, poised⟩ :=
            going.poised (ne_of_eq_of_ne load (by decide))
          have regular := going.regular_of_planned planned
          have away : ((Machine.stepEvent rig paced).setBusy false).position ≠ m.position := by
            rw [← position]
            exact poised.position_stepEvent_ne rig regular
          have within : m.runtime.load ≠ .block := fun block =>
            Bool.false_ne_true (other.symm.trans (due.mp block))
          rw [extend_of_stepping away within]
          cases going.stepEvent rig load with
          | goesOn planner' onCourse' =>
              exact .goesOn (planner'.trans planner) (onCourse'.still ⟨rfl, rfl, rfl, rfl⟩)
          | crosses planned' planner' sum crossed onCourse' =>
              have front := (congrArg BlockQueue.blocks planner).symm.trans planned'
              have discarded := planner'.trans (congrArg BlockQueue.discard planner)
              exact .crosses front discarded sum crossed (onCourse'.still ⟨rfl, rfl, rfl, rfl⟩)

end OnCourse

end StepPulse
