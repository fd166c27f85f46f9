import StepPulse.Proofs.Machine.Stepping
import StepPulse.Proofs.Machine.Travel

/-! From the load of a block on, the counters of the axes stand at their closed form. -/

namespace StepPulse

open Machine

variable {H : Type} {capacity : Nat} {rig : Rig H}

/-- A step event as it shows: how each axis moved, and the image that was staged, the inversion of
lines undone. -/
structure StepEvent where
  moved : PerAxis Int
  image : Lines
  deriving DecidableEq, Repr

/-- A block as it was loaded, and its step events since then, the latest first. -/
structure Path where
  block : ActiveBlock
  events : List StepEvent := []
  deriving DecidableEq, Repr

namespace Path

def steps (p : Path) (axis : Axis) : Nat := p.events.countP fun event => event.moved.get axis != 0

def extend (inverted : Lines) (m m' : Machine H capacity) (image : Lines) (p : Path) : Path :=
  let moved := PerAxis.tabulate fun axis => m'.position.get axis - m.position.get axis
  { p with events := { moved := moved, image := image ^^^ inverted } :: p.events }

end Path

/-- The path of the block that was loaded last, if there was no restart since. An image is staged by
the load of a block and by a step event, and a tick that has a block to load makes no step event. -/
def Machine.tracePath (rig : Rig H) : Recorder H capacity (Option Path) := fun m op m' path =>
  match op with
  | .init => none
  | .reset => none
  | .tick =>
    if m.runtime.busy then path
    else if m.runtime.load = .block then
      if m'.runtime.load = .nothing then some { block := m'.runtime.block } else path
    else
      match m'.runtime.staged with
      | none => path
      | some image => path.map (Path.extend rig.settings.invertMask m m' image)
  | _ => path

namespace ActiveBlock

variable (b : ActiveBlock) (axis : Axis)

def sense : Int := if b.directions.contains (Lines.direction axis) then -1 else 1

def moveAt (n : Nat) : Int :=
  if counterAfter b.events.toNat (b.steps.get axis).toNat n - (b.steps.get axis).toNat < 0 then
    b.sense axis
  else 0

def Draws : List StepEvent → Prop
  | [] => True
  | event :: earlier =>
    event.moved.get axis = b.moveAt axis earlier.length ∧
      event.image.stepOf axis = event.moved.get axis ∧ Draws earlier

structure Spans : Prop where
  eventful : 0 < b.events.toNat
  steps_le : (b.steps.get axis).toNat ≤ b.events.toNat

theorem sense_ne_zero : b.sense axis ≠ 0 := by
  rw [sense]
  split <;> decide

namespace Draws

variable {b axis} {events : List StepEvent}

theorem moved (draws : b.Draws axis events) :
    ∀ event ∈ events, event.moved.get axis = 0 ∨ event.moved.get axis = b.sense axis := by
  induction events with
  | nil => exact nofun
  | cons event earlier ih =>
      obtain ⟨moved, _, rest⟩ := draws
      refine List.forall_mem_cons.mpr ⟨?_, ih rest⟩
      rw [moved, moveAt]
      split
      · exact Or.inr rfl
      · exact Or.inl rfl

theorem image (draws : b.Draws axis events) :
    ∀ event ∈ events, event.image.stepOf axis = event.moved.get axis := by
  induction events with
  | nil => exact nofun
  | cons event earlier ih =>
      obtain ⟨_, image, rest⟩ := draws
      exact List.forall_mem_cons.mpr ⟨image, ih rest⟩

theorem full (draws : b.Draws axis events)
    (full : (b.steps.get axis).toNat = b.events.toNat) :
    ∀ event ∈ events, event.moved.get axis = b.sense axis := by
  induction events with
  | nil => exact nofun
  | cons event earlier ih =>
      obtain ⟨moved, _, rest⟩ := draws
      refine List.forall_mem_cons.mpr ⟨?_, ih rest⟩
      have below := counterAfter_lt b.events.toNat b.events.toNat earlier.length
      rw [moved, moveAt, full, if_pos (by omega)]

theorem countP_moved (spans : b.Spans axis) (draws : b.Draws axis events) :
    events.countP (fun event => event.moved.get axis != 0) =
      stepsDue b.events.toNat (b.steps.get axis).toNat events.length := by
  induction events with
  | nil => exact (stepsDue_zero _ _).symm
  | cons event earlier ih =>
      obtain ⟨moved, _, rest⟩ := draws
      rw [List.countP_cons, ih rest, List.length_cons,
        stepsDue_succ earlier.length spans.steps_le spans.eventful, moved, moveAt]
      congr 1
      by_cases due : counterAfter b.events.toNat (b.steps.get axis).toNat earlier.length -
          (b.steps.get axis).toNat < 0
      · rw [if_pos due, if_pos due, if_pos (bne_iff_ne.mpr (b.sense_ne_zero axis))]
      · rw [if_neg due, if_neg due]
        rfl

theorem sum_moved (draws : b.Draws axis events) :
    (events.map fun event => event.moved.get axis).sum =
      b.sense axis * events.countP fun event => event.moved.get axis != 0 := by
  induction events with
  | nil => exact (Int.mul_zero _).symm
  | cons event earlier ih =>
      have moved := draws.moved event List.mem_cons_self
      rw [List.map_cons, List.sum_cons, ih draws.2.2, List.countP_cons]
      rcases moved with rests | steps
      · rw [rests]
        exact Int.zero_add _
      · rw [steps, if_pos (bne_iff_ne.mpr (b.sense_ne_zero axis)), Int.natCast_add, Int.mul_add,
          Int.natCast_one, Int.mul_one, Int.add_comm]

end Draws

end ActiveBlock

structure Undrawn (m m' : Machine H capacity) : Prop where
  block : m'.runtime.block = m.runtime.block
  counters : m'.runtime.counters = m.runtime.counters

theorem Undrawn.unpulsed {m m' : Machine H capacity} (undrawn : Undrawn m m')
    (unpulsed : m.Unpulsed) : m'.Unpulsed := by
  rwa [Unpulsed, undrawn.block]

theorem Machine.Still.undrawn {m m' : Machine H capacity} (still : Still m m') : Undrawn m m' :=
  ⟨still.block, still.counters⟩

inductive Traces (rig : Rig H) (m m' : Machine H capacity) : Prop
  | rests :
      Undrawn m m' → (m.runtime.load = .block → m'.runtime.load ≠ .nothing) →
      m'.runtime.staged = none → Traces rig m m'
  | loads :
      m.runtime.load = .block → m'.runtime.load = .nothing → m'.Unpulsed →
      m'.runtime.counters =
        PerAxis.constant ((m'.runtime.block.events >>> 1).toNat : Int) → Traces rig m m'
  | steps {paced : Machine H capacity} :
      m.runtime.load ≠ .block → Undrawn m paced → paced.position = m.position →
      m' = (stepEvent rig paced).setBusy false → Traces rig m m'

namespace Traces

variable {m m₀ m' : Machine H capacity}

theorem after (traces : Traces rig m₀ m') (still : Still m m₀) : Traces rig m m' := by
  cases traces with
  | rests undrawn load staged =>
      rw [still.load] at load
      exact .rests ⟨undrawn.block.trans still.block, undrawn.counters.trans still.counters⟩
        load staged
  | loads due load unpulsed seeded =>
      rw [still.load] at due
      exact .loads due load unpulsed seeded
  | steps loaded undrawn position same =>
      rw [still.load] at loaded
      exact .steps loaded
        ⟨undrawn.block.trans still.block, undrawn.counters.trans still.counters⟩
        (position.trans still.position) same

theorem of_still (still : Still m m') (staged : m'.runtime.staged = none) : Traces rig m m' := by
  refine .rests still.undrawn (fun due => ?_) staged
  rw [still.load, due]
  exact nofun

theorem of_advances {ready : Machine H capacity} {loadsBlock : Bool}
    (staged : m.runtime.staged = none) (loads : Loads rig m ready loadsBlock)
    (advances : Advances rig ready loadsBlock m') : Traces rig m m' := by
  cases advances with
  | coasts =>
      cases loads with
      | nothing load =>
          refine .rests ⟨rfl, rfl⟩ (fun due => ?_) staged
          rw [load] at due
          contradiction
      | segment load =>
          refine .rests ⟨rfl, rfl⟩ (fun due => ?_) staged
          rw [load] at due
          contradiction
      | @block s b due =>
          exact .loads due rfl (Lines.contains_step_directionLines b.directions) rfl
  | steps _ unloaded =>
      subst unloaded
      have loaded : m.runtime.load ≠ .block := fun due =>
        Bool.false_ne_true (loads.due_iff.mp due)
      have undrawn : Undrawn m (paced rig ready (nextDistance rig ready + stepDistance ready)) := by
        cases loads <;> exact ⟨rfl, rfl⟩
      exact .steps loaded undrawn loads.position rfl

theorem of_executes (staged : m.runtime.staged = none) (executes : Executes rig m m') :
    Traces rig m m' := by
  cases executes with
  | advances loads => exact of_advances staged loads (Machine.advances rfl)
  | holds => exact of_still (still_finishHold rig m) staged
  | runsDry => exact of_still (still_finishCycle rig m) ((staged_finishCycle rig m).trans staged)
  | @orphaned s =>
      -- The segment is loaded, but the load of the block stays due.
      refine .rests ⟨rfl, rfl⟩ (fun due => ?_) staged
      have load : (enterAlarm rig (loadSegment m s)).runtime.load = m.runtime.load := rfl
      rw [load, due]
      exact nofun

end Traces

theorem tick_traces (rig : Rig H) {m : Machine H capacity} (free : m.runtime.busy = false) :
    Traces rig m (m.tick rig) := by
  have staged := staged_applyStaged rig m
  rcases tick_cases rig m with ⟨busy, _⟩ | ⟨cause, m₀, refused, same⟩ | ⟨m₀, taken, executes⟩
  · rw [free] at busy
    contradiction
  · rw [refused] at staged
    rw [same]
    exact .of_still (still_alarmed refused) staged
  · rw [taken] at staged
    have gone : (m₀.setBusy true).runtime.staged = none := staged
    exact (Traces.of_executes gone executes).after (still_begun taken)

theorem undrawn_wakeUp (rig : Rig H) (m : Machine H capacity) : Undrawn m (m.wakeUp rig).2 := by
  rcases wakeUp_still rig m with still | asked
  · exact still.undrawn
  · exact ⟨asked.block, asked.counters⟩

theorem perform_undrawn {m m' : Machine H capacity} {op : Operation} {reply : Reply}
    (goesOn : op ≠ .init ∧ op ≠ .reset) (notTicking : op ≠ .tick)
    (performed : m.perform rig op = .ok (reply, m')) : Undrawn m m' := by
  cases performs performed with
  | init => exact absurd rfl goesOn.1
  | reset => exact absurd rfl goesOn.2
  | tick => exact absurd rfl notTicking
  | wakeUp => exact undrawn_wakeUp rig m
  | cycleStart =>
      simp only [cycleStart]
      split
      · have started := undrawn_wakeUp rig { m with runState := .cycle }
        exact ⟨started.block, started.counters⟩
      · exact ⟨rfl, rfl⟩
      · exact ⟨rfl, rfl⟩
  | goIdle => exact (still_goIdle rig m).undrawn
  | alarm =>
      have idle := still_goIdle rig { m with runState := .alarm }
      exact ⟨idle.block, idle.counters⟩
  | pulseReset => exact (still_onPulseReset rig m).undrawn
  | _ => exact ⟨rfl, rfl⟩

/-- The machine is at the end of a path: its counter stands where the events of the path have taken
it, and each of them moved the axis as it was due. -/
structure Follows (p : Path) (axis : Axis) (m : Machine H capacity) : Prop where
  block : m.runtime.block = p.block
  unpulsed : m.Unpulsed
  counter : m.runtime.counters.get axis =
    counterAfter p.block.events.toNat (p.block.steps.get axis).toNat p.events.length
  draws : p.block.Draws axis p.events

namespace Follows

variable {p : Path} {axis : Axis} {m m' : Machine H capacity}

theorem undrawn (follows : Follows p axis m) (undrawn : Undrawn m m') : Follows p axis m' :=
  { block := undrawn.block.trans follows.block
    unpulsed := undrawn.unpulsed follows.unpulsed
    counter := by
      rw [undrawn.counters]
      exact follows.counter
    draws := follows.draws }

theorem loaded (eventful : 0 < m.runtime.block.events.toNat) (unpulsed : m.Unpulsed)
    (seeded : m.runtime.counters =
      PerAxis.constant ((m.runtime.block.events >>> 1).toNat : Int)) :
    Follows { block := m.runtime.block } axis m :=
  { block := rfl
    unpulsed := unpulsed
    counter := by
      rw [seeded, PerAxis.get_constant]
      exact seed_eq eventful _
    draws := trivial }

theorem stepOf_next (follows : Follows p axis m) :
    m.nextImage.stepOf axis = p.block.moveAt axis p.events.length := by
  rw [stepOf_nextImage follows.unpulsed axis, follows.counter, follows.block]
  rfl

theorem stepEvent (spans : p.block.Spans axis) (follows : Follows p axis m) :
    Follows (p.extend rig.settings.invertMask m (stepEvent rig m)
      (m.nextImage ^^^ rig.settings.invertMask)) axis (stepEvent rig m) := by
  have moved : (Machine.stepEvent rig m).position.get axis - m.position.get axis =
      m.nextImage.stepOf axis := by
    rw [position_stepEvent_eq rig follows.unpulsed axis]
    exact add_sub_cancel_left _ _
  refine { block := follows.block, unpulsed := follows.unpulsed, counter := ?_, draws := ?_ }
  · show (PerAxis.tabulate _).get axis = counterAfter p.block.events.toNat
      (p.block.steps.get axis).toNat (p.events.length + 1)
    rw [PerAxis.get_tabulate, counterAfter_succ _ spans.steps_le spans.eventful,
      ← follows.counter]
    beta_reduce
    rw [follows.block]
  · refine ⟨?_, ?_, follows.draws⟩
    · rw [PerAxis.get_tabulate, moved]
      exact follows.stepOf_next
    · rw [PerAxis.get_tabulate, moved, Lines.xor_xor]

end Follows

def Machine.OnPath (axis : Axis) (path : Option Path) (m : Machine H capacity) : Prop :=
  ∀ p, path = some p → p.block.Spans axis → Follows p axis m

namespace Machine.OnPath

variable {axis : Axis} {path : Option Path} {m m' : Machine H capacity}

theorem undrawn (onPath : OnPath axis path m) (undrawn : Undrawn m m') : OnPath axis path m' :=
  fun p found spans => (onPath p found spans).undrawn undrawn

theorem tick (onPath : OnPath axis path m) :
    OnPath axis (tracePath rig m .tick (m.tick rig) path) (m.tick rig) := by
  simp only [tracePath]
  cases busy : m.runtime.busy with
  | true =>
      rw [tick_busy busy]
      exact onPath
  | false =>
      have traces := tick_traces rig busy
      generalize m.tick rig = m' at traces
      rw [if_neg Bool.false_ne_true]
      cases traces with
      | rests undrawn load staged =>
          have rests := onPath.undrawn undrawn
          by_cases due : m.runtime.load = .block
          · rwa [if_pos due, if_neg (load due)]
          · rwa [if_neg due, staged]
      | loads due load unpulsed seeded =>
          rw [if_pos due, if_pos load]
          rintro _ ⟨rfl⟩ spans
          exact Follows.loaded spans.eventful unpulsed seeded
      | @steps paced loaded undrawn position same =>
          subst same
          rw [if_neg loaded]
          intro p' extended spans
          obtain ⟨p, found, rfl⟩ := Option.map_eq_some_iff.mp extended
          have follows : Follows p axis paced := (onPath p found spans).undrawn undrawn
          have stepped : Follows (p.extend rig.settings.invertMask paced (stepEvent rig paced)
              (paced.nextImage ^^^ rig.settings.invertMask)) axis (stepEvent rig paced) :=
            follows.stepEvent spans
          rw [Path.extend, position] at stepped
          exact stepped.undrawn ⟨rfl, rfl⟩

theorem perform {op : Operation} {reply : Reply} (onPath : OnPath axis path m)
    (performed : m.perform rig op = .ok (reply, m')) :
    OnPath axis (tracePath rig m op m' path) m' := by
  by_cases ticking : op = .tick
  · subst ticking
    cases performs performed
    exact onPath.tick
  · by_cases restarting : op = .init ∨ op = .reset
    · rcases restarting with rfl | rfl <;> exact nofun
    · have same : tracePath rig m op m' path = path := by
        cases op <;> first | rfl | simp at ticking restarting
      rw [same]
      exact onPath.undrawn (perform_undrawn (not_or.mp restarting) ticking performed)

theorem run {start : Machine H capacity}
    (ran : Run rig unrestricted (tracePath rig) start none m path) : OnPath axis path m := by
  induction ran with
  | start => exact nofun
  | step _ _ performed ih => exact ih.perform performed

end Machine.OnPath

/-- The straight line of a block, as an axis follows it with whole steps: after `n` of `E` events
there were `n * s / E` of its `s` steps, rounded to the nearest. -/
structure Path.Straight (p : Path) (m : Machine H capacity) (axis : Axis) : Prop where
  steps : p.steps axis =
    (p.events.length * (p.block.steps.get axis).toNat + p.block.events.toNat - 1 -
      p.block.events.toNat / 2) / p.block.events.toNat
  moved : ∀ event ∈ p.events,
    event.moved.get axis = 0 ∨ event.moved.get axis = p.block.sense axis
  image : ∀ event ∈ p.events, event.image.stepOf axis = event.moved.get axis
  displaced : (p.events.map fun event => event.moved.get axis).sum =
    p.block.sense axis * p.steps axis
  counter : 0 ≤ m.runtime.counters.get axis ∧
    m.runtime.counters.get axis < p.block.events.toNat
  near : 2 * (((p.block.events.toNat * p.steps axis : Nat) : Int) -
    (p.events.length * (p.block.steps.get axis).toNat : Nat)).natAbs ≤ p.block.events.toNat
  full : (p.block.steps.get axis).toNat = p.block.events.toNat →
    ∀ event ∈ p.events, event.moved.get axis = p.block.sense axis
  whole : p.events.length = p.block.events.toNat →
    p.steps axis = (p.block.steps.get axis).toNat

theorem Follows.straight {p : Path} {axis : Axis} {m : Machine H capacity}
    (spans : p.block.Spans axis) (follows : Follows p axis m) : p.Straight m axis := by
  have steps : p.steps axis =
      stepsDue p.block.events.toNat (p.block.steps.get axis).toNat p.events.length :=
    follows.draws.countP_moved spans
  refine
    { steps := ?_
      moved := follows.draws.moved
      image := follows.draws.image
      displaced := follows.draws.sum_moved
      counter := ?_
      near := ?_
      full := follows.draws.full
      whole := fun all => ?_ }
  · have eventful := spans.eventful
    rw [steps, stepsDue, inflow]
    congr 1
    omega
  · rw [follows.counter]
    exact ⟨counterAfter_nonneg spans.eventful _ _, counterAfter_lt _ _ _⟩
  · rw [steps]
    exact stepsDue_near spans.eventful _ _
  · rw [steps, all]
    exact stepsDue_all spans.eventful _

/-- From the load of a block until the next load or restart, whatever operations there are and
whatever is refused, each axis that the block spans keeps to its straight line. -/
theorem path_in_closed_form (rig : Rig H) {start m : Machine H capacity} {p : Path}
    (ran : Run rig unrestricted (tracePath rig) start none m (some p)) (axis : Axis)
    (eventful : 0 < p.block.events.toNat)
    (bounded : (p.block.steps.get axis).toNat ≤ p.block.events.toNat) : p.Straight m axis :=
  have spans : p.block.Spans axis := ⟨eventful, bounded⟩
  (OnPath.run ran p rfl spans).straight spans

def unevenBlock : Block := { Block.sample with steps := ⟨5, 2, 3⟩, events := 5 }

def unevenRun : List Operation :=
  [.pushBlock unevenBlock, .queue, .cycleStart, .prepareSegments, .tick, .tick, .tick, .feedHold,
    .tick, .cycleStart, .tick, .tick]

def unevenPath : Path :=
  { block := unevenBlock.active
    events :=
      [{ moved := ⟨1, -1, 0⟩, image := ⟨0b10011⟩ }, { moved := ⟨1, 0, 1⟩, image := ⟨0b10101⟩ },
        { moved := ⟨1, -1, 0⟩, image := ⟨0b10011⟩ }, { moved := ⟨1, 0, 1⟩, image := ⟨0b10101⟩ }] }

theorem straight_across_hold :
    ∃ m : Machine Unit 4,
      Run sampleRig unrestricted (tracePath sampleRig) (Machine.fresh () {}) none m
        (some unevenPath) ∧
      0 < unevenPath.block.events.toNat ∧
      ∀ axis, (unevenPath.block.steps.get axis).toNat ≤ unevenPath.block.events.toNat ∧
        unevenPath.Straight m axis := by
  obtain ⟨m, path, ran, shown⟩ := exists_unrestricted sampleRig (tracePath sampleRig)
    (Machine.fresh () {} : Machine Unit 4) none unevenRun (fun r => r.2 == some unevenPath)
    (by decide +kernel)
  obtain rfl : path = some unevenPath := eq_of_beq shown
  have eventful : 0 < unevenPath.block.events.toNat := by decide
  have bounded (axis : Axis) :
      (unevenPath.block.steps.get axis).toNat ≤ unevenPath.block.events.toNat := by
    cases axis <;> decide
  exact ⟨m, ran, eventful, fun axis =>
    ⟨bounded axis, path_in_closed_form sampleRig ran axis eventful (bounded axis)⟩⟩

end StepPulse
