import StepPulse.Proofs.Machine.Checked

/-!
The accumulators of a machine, which are words of 64 bits. A tick can draw nearly a whole word of 32
bits from the distance and give one unit back, and a block may have 2³¹ step events. From the load
of the block to its last step event the distance then falls to within one of the least number of 64
bits, and no further: the count of the events of a block is what bounds it.
-/

namespace StepPulse

open Machine

variable {H : Type} {capacity : Nat}

/-- What the accumulators rely on in a block. -/
structure Block.Modest (settings : Settings) (b : Block) : Prop where
  events_le : b.events.toNat ≤ 2 ^ 31
  steps_le : ∀ axis, (b.steps.get axis).toNat ≤ b.events.toNat
  moves : 1 ≤ (Rates.ofBlock b settings).stepDistance.toNat

theorem Block.Modest.of_build {settings : Settings} {b : Block} {move : Move}
    (built : move.build = .ok b) (moves : 1 ≤ (Rates.ofBlock b settings).stepDistance.toNat) :
    b.Modest settings := by
  have regular := Move.regular_build built
  obtain ⟨_, _, rfl⟩ := Move.build_eq_ok built
  exact { events_le := move.toNat_events_le, steps_le := regular.steps_le, moves := moves }

/-- What a distance can have come to over so many step events: each takes a rate from it and adds a
step distance, and one more rate is taken by the tick that loads the block. -/
structure Fallen (distance : Int) (events : Nat) : Prop where
  low : -((2 ^ 32 - 2) * (events + 1)) ≤ distance
  high : distance < 2 ^ 32

namespace Fallen

variable {distance : Int} {events : Nat} {rate unit : UInt32}

theorem rest : Fallen 0 0 := ⟨by decide, by decide⟩

theorem wide (fallen : Fallen distance events) (few : events ≤ 2 ^ 31) : Wide distance := by
  have low := fallen.low
  have high := fallen.high
  constructor <;> omega

theorem loaded (positive : 1 ≤ unit.toNat) (rate : UInt32) :
    Fallen (unit.toNat - rate.toNat) 0 := by
  have fast := rate.toNat_lt
  have far := unit.toNat_lt
  constructor <;> omega

theorem drawn (fallen : Fallen distance events) (few : events < 2 ^ 31) (rate : UInt32) :
    Wide (distance - rate.toNat) := by
  have low := fallen.low
  have high := fallen.high
  have fast := rate.toNat_lt
  constructor <;> omega

theorem coasts (fallen : Fallen distance events) (ahead : 0 ≤ distance - rate.toNat) :
    Fallen (distance - rate.toNat) events := by
  have high := fallen.high
  constructor <;> omega

theorem steps (fallen : Fallen distance events) (due : distance - rate.toNat < 0)
    (positive : 1 ≤ unit.toNat) :
    Fallen (distance - rate.toNat + unit.toNat) (events + 1) := by
  have low := fallen.low
  have fast := rate.toNat_lt
  have far := unit.toNat_lt
  constructor
  · push_cast
    omega
  · omega

end Fallen

section Step

variable {settings : Settings} {m m' : Machine H capacity} {w w' : BlockQueue capacity}
  {first : Nat}

theorem Listed.counts (rig : Rig H) (listed : Listed settings m w first)
    (load : m.runtime.load = .nothing) :
    ∃ b ∈ w.blocks, first + m.executed < b.events.toNat ∧
      ((Machine.stepEvent rig m).runtime.load ≠ .block →
        Coherent.passed m first + (Machine.stepEvent rig m).executed = first + m.executed + 1) := by
  have coherent := listed.coherent
  obtain ⟨_, b, blocks, _, _, planned, _⟩ := coherent.front (coherent.executing load)
  have member : b ∈ w.blocks := by
    rw [show w.blocks = b :: blocks from planned]
    exact List.mem_cons_self
  refine ⟨b, member, ?_⟩
  cases coherent.reaches rig load planned with
  | amid _ _ count more => exact ⟨Nat.lt_of_succ_lt more, fun _ => count⟩
  | ends _ due _ count =>
      exact ⟨Nat.lt_of_succ_le (Nat.le_of_eq count), fun other => absurd due other⟩

theorem Listed.waiting (listed : Listed settings m w first) (due : m'.runtime.load ≠ .nothing)
    (planner : m'.planner = m.planner) (pipeline : m'.pipeline = m.pipeline) :
    Listed settings m' w first := by
  refine
    { coherent :=
        { aligned := ?_, executing := fun load => absurd load due
          left := fun load => absurd load due, within := fun load => absurd load due }
      begun := ?_, eventful := ?_ }
  · show Aligned settings w m'.pipeline first
    rw [pipeline]
    exact listed.coherent.aligned
  · rw [pipeline]
    exact listed.begun
  · rw [planner]
    exact listed.eventful

theorem modest_of_worked (modest : ∀ b ∈ w.blocks, b.Modest settings)
    (worked : Worked m m' w w') : ∀ b ∈ w'.blocks, b.Modest settings := by
  cases worked with
  | goesOn => exact modest
  | crosses => exact fun b member => modest b (BlockQueue.mem_of_discard member)

end Step

/-- The machine executes modest blocks, and its counters are what they can be. -/
structure Orderly (settings : Settings) (m : Machine H capacity) (w : BlockQueue capacity)
    (first : Nat) : Prop where
  listed : Listed settings m w first
  modest : ∀ b ∈ w.blocks, b.Modest settings
  stock : ∀ b ∈ m.planner.blocks, b.Modest settings
  counted : Counted m

structure Contained (settings : Settings) (m : Machine H capacity) (w : BlockQueue capacity)
    (first : Nat) : Prop extends Orderly settings m w first where
  fallen : ∃ events ≤ 2 ^ 31, Fallen m.runtime.distance events ∧
    (m.runtime.load ≠ .block → events ≤ first + m.executed)

structure Laden (settings : Settings) (m : Machine H capacity) (w : BlockQueue capacity)
    (first : Nat) (loadsBlock : Bool) : Prop extends Orderly settings m w first where
  load : m.runtime.load = .nothing
  anew : loadsBlock = true → m.runtime.distance = stepDistance m
  fallen : loadsBlock = false →
    ∃ events ≤ first + m.executed, Fallen m.runtime.distance events

namespace Orderly

variable {rig : Rig H} {settings : Settings} {m m' ready : Machine H capacity}
  {w : BlockQueue capacity} {first : Nat} {loadsBlock : Bool}

theorem still (orderly : Orderly settings m w first) (still : Still m m') :
    Orderly settings m' w first := by
  refine
    { listed := orderly.listed.still still, modest := orderly.modest, stock := ?_
      counted := orderly.counted.congr still.counters still.block }
  rw [still.planner]
  exact orderly.stock

theorem loads (orderly : Orderly settings m w first) (loads : Loads rig m ready loadsBlock) :
    Orderly settings ready w first := by
  refine
    { listed := orderly.listed.loads loads, modest := orderly.modest, stock := ?_, counted := ?_ }
  · rw [loads.planner]
    exact orderly.stock
  · cases loads with
    | nothing => exact orderly.counted
    | segment => exact orderly.counted.congr rfl rfl
    | @block s b _ _ current =>
        have member : b ∈ m.planner.blocks := List.mem_of_mem_head? current
        have loaded := Counted.loadBlock rig (loadSegment m s) (orderly.stock b member).steps_le
        exact loaded.congr rfl rfl

theorem stepEvent (orderly : Orderly settings m w first) (rig : Rig H)
    (load : m.runtime.load = .nothing) :
    ∃ w', Orderly settings (Machine.stepEvent rig m) w' (Coherent.passed m first) := by
  obtain ⟨w', after, worked⟩ := orderly.listed.stepEvent rig load
  exact ⟨w',
    { listed := after, modest := modest_of_worked orderly.modest worked
      stock := fun b member => orderly.stock b (mem_of_stepEvent rig m member)
      counted := orderly.counted.stepEvent rig }⟩

theorem paced (orderly : Orderly settings m w first) (rig : Rig H) (distance : Int) :
    Orderly settings (m.paced rig distance) w first :=
  { listed := orderly.listed.paced rig distance, modest := orderly.modest
    stock := orderly.stock, counted := orderly.counted.congr rfl rfl }

theorem setBusy (orderly : Orderly settings m w first) (busy : Bool) :
    Orderly settings (m.setBusy busy) w first := orderly.still ⟨rfl, rfl, rfl, rfl⟩

end Orderly

namespace Laden

variable {rig : Rig H} {m : Machine H capacity} {w : BlockQueue capacity} {first : Nat}
  {loadsBlock : Bool}

theorem stepDistance_pos (laden : Laden rig.settings m w first loadsBlock) :
    1 ≤ stepDistance m := by
  obtain ⟨b, blocks, planned, same⟩ := laden.listed.stepDistance_eq laden.load
  rw [← same]
  exact (laden.modest b (planned ▸ List.mem_cons_self)).moves

theorem count_lt (laden : Laden rig.settings m w first loadsBlock) :
    first + m.executed < 2 ^ 31 := by
  obtain ⟨b, member, within, _⟩ := laden.listed.counts rig laden.load
  exact Nat.lt_of_lt_of_le within (laden.modest b member).events_le

theorem loaded (laden : Laden rig.settings m w first true) : Fallen (nextDistance rig m) 0 := by
  rw [nextDistance, laden.anew rfl]
  exact Fallen.loaded laden.stepDistance_pos _

theorem advance? (laden : Laden rig.settings m w first loadsBlock) :
    Machine.advance? rig m loadsBlock = some (advance rig m loadsBlock) := by
  apply advance?_eq laden.counted
  · cases loadsBlock with
    | true => exact laden.loaded.wide (Nat.zero_le _)
    | false =>
        obtain ⟨events, few, fallen⟩ := laden.fallen rfl
        exact fallen.drawn (Nat.lt_of_le_of_lt few laden.count_lt) _
  · rintro due rfl
    obtain ⟨events, few, fallen⟩ := laden.fallen rfl
    apply (fallen.steps due laden.stepDistance_pos).wide
    exact Nat.succ_le_of_lt (Nat.lt_of_le_of_lt few laden.count_lt)

theorem coasts (laden : Laden rig.settings m w first loadsBlock)
    (rest : 0 ≤ nextDistance rig m ∨ loadsBlock = true) :
    Contained rig.settings ((paced rig m (nextDistance rig m)).setBusy false) w first := by
  refine { toOrderly := (laden.toOrderly.paced rig _).setBusy false, fallen := ?_ }
  cases loadsBlock with
  | true => exact ⟨0, Nat.zero_le _, laden.loaded, fun _ => Nat.zero_le _⟩
  | false =>
      obtain ⟨events, few, fallen⟩ := laden.fallen rfl
      have ahead : 0 ≤ nextDistance rig m := by simpa using rest
      have bound := Nat.le_of_lt (Nat.lt_of_le_of_lt few laden.count_lt)
      exact ⟨events, bound, fallen.coasts ahead, fun _ => few⟩

theorem steps (laden : Laden rig.settings m w first false) (due : nextDistance rig m < 0) :
    ∃ w' first', Contained rig.settings
      ((stepEvent rig (paced rig m (nextDistance rig m + stepDistance m))).setBusy false)
      w' first' := by
  have paced := laden.toOrderly.paced rig (nextDistance rig m + stepDistance m)
  obtain ⟨w', after⟩ := paced.stepEvent rig laden.load
  obtain ⟨_, _, _, count⟩ := paced.listed.counts rig laden.load
  obtain ⟨events, few, fallen⟩ := laden.fallen rfl
  have bound := Nat.succ_le_of_lt (Nat.lt_of_le_of_lt few laden.count_lt)
  refine ⟨w', _, { toOrderly := after.setBusy false, fallen := ⟨events + 1, bound, ?_, ?_⟩ }⟩
  · exact fallen.steps due laden.stepDistance_pos
  · intro other
    have next := count other
    calc
      events + 1 ≤ first + m.executed + 1 := Nat.succ_le_succ few
      _ = _ := next.symm

theorem advances (laden : Laden rig.settings m w first loadsBlock) :
    ∃ w' first', Contained rig.settings (advance rig m loadsBlock) w' first' := by
  have advances : Advances rig m loadsBlock (advance rig m loadsBlock) := Machine.advances rfl
  generalize advance rig m loadsBlock = m' at advances
  cases advances with
  | coasts rest => exact ⟨w, first, laden.coasts rest⟩
  | steps due running =>
      subst running
      exact laden.steps due

end Laden

namespace Contained

variable {rig : Rig H} {settings : Settings} {m m' ready : Machine H capacity}
  {w : BlockQueue capacity} {first : Nat} {loadsBlock : Bool}

theorem loads (contained : Contained settings m w first) (loads : Loads rig m ready loadsBlock) :
    Laden settings ready w first loadsBlock := by
  obtain ⟨events, _, fallen, few⟩ := contained.fallen
  refine
    { toOrderly := contained.toOrderly.loads loads, load := loads.load, anew := ?_, fallen := ?_ }
  · rintro rfl
    cases loads
    rfl
  · rintro rfl
    cases loads with
    | nothing load => exact ⟨events, few (ne_of_eq_of_ne load (by decide)), fallen⟩
    | segment due =>
        -- Nothing of the segment has been executed, neither before nor after it is loaded.
        have count := few (ne_of_eq_of_ne due (by decide))
        rw [executed_of_due (ne_of_eq_of_ne due (by decide))] at count
        exact ⟨events, Nat.le_trans count (Nat.le_add_right _ _), fallen⟩

theorem still (contained : Contained settings m w first) (still : Still m m') :
    Contained settings m' w first := by
  obtain ⟨events, bound, fallen, few⟩ := contained.fallen
  refine
    { toOrderly := contained.toOrderly.still still, fallen := ⟨events, bound, ?_, ?_⟩ }
  · rw [still.distance]
    exact fallen
  · rw [still.load, executed, still.load, still.segment, still.stepsRemaining]
    exact few

theorem unmoved (contained : Contained settings m w first) (unmoved : Unmoved m m')
    (due : m.runtime.load = .block) : Contained settings m' w first := by
  obtain ⟨events, bound, fallen, _⟩ := contained.fallen
  have due' : m'.runtime.load = .block := unmoved.load.trans due
  have waiting : m'.runtime.load ≠ .nothing := ne_of_eq_of_ne due' (by decide)
  refine
    { listed := contained.listed.waiting waiting unmoved.planner unmoved.pipeline
      modest := contained.modest, stock := ?_
      counted := contained.counted.congr unmoved.counters unmoved.block
      fallen := ⟨events, bound, ?_, fun other => absurd due' other⟩ }
  · rw [unmoved.planner]
    exact contained.stock
  · rw [unmoved.distance]
    exact fallen

theorem tick (contained : Contained rig.settings m w first) :
    m.tick? rig = some (m.tick rig) ∧
      ∃ w' first', Contained rig.settings (m.tick rig) w' first' := by
  rcases tick?_cases rig m with
    ⟨m₀, ready, loadsBlock, still, loads, ticks, checked⟩ | ⟨checked, unmoved, still⟩
  · have laden := (contained.still still).loads loads
    rw [ticks, checked]
    exact ⟨laden.advance?, laden.advances⟩
  · refine ⟨checked, w, first, ?_⟩
    by_cases due : m.runtime.load = .block
    · exact contained.unmoved unmoved due
    · exact contained.still (still due)

protected theorem reset (settings : Settings) (m : Machine H capacity)
    (eventful : ∀ b ∈ m.planner.blocks, b.events ≠ 0)
    (stock : ∀ b ∈ m.planner.blocks, b.Modest settings) :
    Contained settings m.reset { tail := m.planner.tail } 0 :=
  { listed := Listed.reset settings m eventful
    modest := fun _ member => absurd member List.not_mem_nil
    stock := stock
    counted := Counted.reset m
    fallen := ⟨0, Nat.zero_le _, Fallen.rest, fun other => absurd rfl other⟩ }

theorem lasts {op : Operation} {reply : Reply} (contained : Contained rig.settings m w first)
    (goesOn : op.restarts = false) (notTicking : op ≠ .tick)
    (stock : ∀ b ∈ m'.planner.blocks, b.Modest rig.settings)
    (performed : m.perform rig op = .ok (reply, m')) :
    ∃ w', Contained rig.settings m' w' first := by
  obtain ⟨w', listed, _, _, taken⟩ := contained.listed.perform goesOn notTicking performed
  obtain ⟨events, bound, fallen, few⟩ := contained.fallen
  have lasts := Lasts.perform goesOn notTicking performed
  refine ⟨w',
    { listed := listed, modest := fun b member => ?_, stock := stock
      counted := contained.counted.congr lasts.counters lasts.block
      fallen := ⟨events, bound, ?_, fun other => ?_⟩ }⟩
  · rcases taken b member with old | new
    · exact contained.modest b old
    · exact contained.stock b new
  · rw [lasts.distance]
    exact fallen
  · obtain ⟨load, segment, stepsRemaining⟩ := lasts.goesOn other
    rw [executed, load, segment, stepsRemaining]
    exact few (lasts.load_ne other)

theorem perform {op : Operation} {reply : Reply} (contained : Contained rig.settings m w first)
    (pushed : ∀ b, op = .pushBlock b → b.Modest rig.settings)
    (performed : m.perform rig op = .ok (reply, m')) :
    ∃ w' first', Contained rig.settings m' w' first' := by
  have stock : ∀ b ∈ m'.planner.blocks, b.Modest rig.settings := by
    intro b member
    rcases mem_of_perform performed member with old | same
    · exact contained.stock b old
    · exact pushed b same
  cases restarts : op.restarts with
  | true =>
      have anew := Contained.reset rig.settings m contained.listed.eventful contained.stock
      exact ⟨_, 0, anew.still (perform_restarts restarts performed)⟩
  | false =>
      by_cases ticking : op = .tick
      · subst ticking
        cases performs performed
        exact contained.tick.2
      · obtain ⟨w', after⟩ := contained.lasts restarts ticking stock performed
        exact ⟨w', first, after⟩

end Contained

def Machine.modestly (settings : Settings) : Rule H capacity := fun _ op =>
  ∀ b, op = .pushBlock b → b.Modest settings

theorem Contained.run {rig : Rig H} {start m : Machine H capacity} {account : Unit}
    (initially : ∃ w first, Contained rig.settings start w first)
    (ran : Run rig (modestly rig.settings) unrecorded start () m account) :
    ∃ w first, Contained rig.settings m w first := by
  induction ran with
  | start => exact initially
  | step _ allowed performed ih =>
      obtain ⟨_, _, contained⟩ := ih
      exact contained.perform allowed performed

/-- The accumulators fit, and so does all that the next tick computes for them. -/
structure Machine.Fits (rig : Rig H) (m : Machine H capacity) : Prop where
  distance : Wide m.runtime.distance
  counters : ∀ axis, Wide (m.runtime.counters.get axis)
  tick : m.tick? rig = some (m.tick rig)

/-- In any order of operations and with any refusals, blocks of up to 2³¹ step events overflow
neither the distance nor a counter, whatever their rates. -/
theorem accumulators_never_overflow (rig : Rig H) (hardware : H) {q : BlockQueue capacity}
    (eventful : ∀ b ∈ q.blocks, b.events ≠ 0) (modest : ∀ b ∈ q.blocks, b.Modest rig.settings)
    {m : Machine H capacity}
    (ran : Run rig (modestly rig.settings) unrecorded (Machine.fresh hardware q) () m ()) :
    m.Fits rig := by
  have fresh : Contained rig.settings (Machine.fresh hardware q) { tail := q.tail } 0 :=
    Contained.reset rig.settings { hardware := hardware, planner := q } eventful modest
  obtain ⟨w, first, contained⟩ := Contained.run ⟨_, _, fresh⟩ ran
  obtain ⟨events, bound, fallen, _⟩ := contained.fallen
  exact
    { distance := fallen.wide bound, counters := contained.counted.wide
      tick := contained.tick.1 }

def Move.minute : Move := { Move.uneven with length := 1e-6 }

def Block.minute : Block := { Block.uneven with length := 1e-6 }

def hastyRig : Rig Unit := Rig.bench { minimumStepRate := 4294967295 } Sizing.fixed

theorem Block.modest_minute : Block.minute.Modest hastyRig.settings := by
  have built : Move.minute.build = .ok .minute := rfl
  exact .of_build built (by decide +kernel)

def onlyMinute (_ : Machine Unit 4) : Operation → Bool
  | .pushBlock b => b == .minute
  | _ => true

theorem modestly_of_onlyMinute (m : Machine Unit 4) (op : Operation)
    (allowed : onlyMinute m op = true) : modestly hastyRig.settings m op := by
  rintro b rfl
  obtain rfl := eq_of_beq allowed
  exact Block.modest_minute

theorem plunges_and_fits :
    ∃ m : Machine Unit 4,
      Run hastyRig (modestly hastyRig.settings) unrecorded (Machine.fresh () {}) () m () ∧
      m.runtime.distance = -12884901882 ∧ m.Fits hastyRig := by
  have followed : (follow hastyRig onlyMinute unrecorded (Machine.fresh () {} : Machine Unit 4) ()
      [.pushBlock .minute, .prepareSegments, .queue, .cycleStart, .tick, .tick, .tick]).any
      (fun r => r.1.runtime.distance == -12884901882) = true := by
    decide +kernel
  obtain ⟨m, _, ran, shown⟩ := exists_run modestly_of_onlyMinute followed
  exact ⟨m, ran, eq_of_beq shown,
    accumulators_never_overflow hastyRig () (by simp) (by simp) ran⟩

end StepPulse
