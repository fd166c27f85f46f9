import Mathlib.Algebra.Order.Floor.Div
import Mathlib.Tactic.Ring
import StepPulse.Proofs.Machine.Refusal
import StepPulse.Proofs.Machine.Worklist

/-!
Step events in inverse time. Each executing tick draws the rate in effect from the distance to the
next step event, and each event adds one step distance, so that the distance left is a balance of
the two. While no rate exceeds the step distance, one event a tick keeps the balance from falling
below zero, and the sum of the rates settles the number of events: nothing is lost or counted twice
where segments meet, where the rate changes, or in the tick that loads the block.
-/

namespace StepPulse

open Machine

variable {H : Type} {capacity : Nat} {rig : Rig H}

def Machine.fetches (m : Machine H capacity) : Bool :=
  m.runtime.load == .nothing ||
    (m.runState != .hold && m.pipeline.segments.peek?.isSome &&
      (m.runtime.load == .segment || m.planner.current?.isSome))

def Machine.executing (rig : Rig H) (m : Machine H capacity) : Bool :=
  !m.runtime.busy && (applyStaged rig m).1.isOk && m.fetches

def Machine.eventsTaken (m m' : Machine H capacity) : Nat :=
  let before :=
    if m.runtime.load = .nothing then m.runtime.stepsRemaining else m'.runtime.segment.steps
  before.toNat - m'.runtime.stepsRemaining.toNat

/-- What was drawn since the block was loaded. -/
structure Drawn where
  stepDistance : Nat
  rates : List Nat := []
  events : Nat := 0
  deriving DecidableEq, Repr

def Drawn.tick (rate events : Nat) (d : Drawn) : Drawn :=
  { d with rates := rate :: d.rates, events := d.events + events }

/-- An executing tick with a block load due begins anew; a restart leaves nothing to go on with. -/
def Machine.draw (rig : Rig H) : Recorder H capacity (Option Drawn) := fun m op m' drawn =>
  match op with
  | .init => none
  | .reset => none
  | .tick =>
    if m.executing rig then
      let loaded :=
        if m.runtime.load = .block then some { stepDistance := stepDistance m' } else drawn
      loaded.map (Drawn.tick (m'.ratePerTick rig).toNat (eventsTaken m m'))
    else drawn
  | _ => drawn

section Tick

variable {m m₀ : Machine H capacity}

theorem execute_fetches (rig : Rig H) (m : Machine H capacity) :
    (m.fetches = true ∧ ∃ ready loadsBlock, Loads rig m ready loadsBlock ∧
      execute rig m = advance rig ready loadsBlock) ∨
      m.fetches = false ∧ Unmoved m (execute rig m) := by
  by_cases load : m.runtime.load = .nothing
  · left
    exact ⟨by simp [fetches, load], m, false, .nothing load, execute_loaded load⟩
  by_cases hold : m.runState = .hold
  · right
    rw [execute_held load hold]
    exact ⟨by simp [fetches, load, hold], (still_finishHold rig m).unmoved⟩
  cases peeked : m.pipeline.segments.peek? with
  | none =>
      right
      rw [execute_dry load hold peeked]
      exact ⟨by simp [fetches, load, peeked], (still_finishCycle rig m).unmoved⟩
  | some s =>
      cases due : m.runtime.load with
      | nothing => exact absurd due load
      | segment =>
          left
          exact ⟨by simp [fetches, due, hold, peeked], _, false, .segment due peeked,
            execute_segment due hold peeked⟩
      | block =>
          cases current : m.planner.current? with
          | none =>
              right
              rw [execute_orphaned due hold peeked current]
              have alarmed := (still_enterAlarm rig (loadSegment m s)).unmoved
              exact ⟨by simp [fetches, due, current], (unmoved_loadSegment m s).trans alarmed⟩
          | some b =>
              left
              exact ⟨by simp [fetches, due, hold, peeked, current], _, true,
                .block due peeked current, execute_block due hold peeked current⟩

theorem fetches_congr (still : Still m m₀) (runState : m₀.runState = m.runState) :
    m₀.fetches = m.fetches := by
  rw [fetches, fetches, still.load, still.pipeline, still.planner, runState]

theorem tick_executing (rig : Rig H) (m : Machine H capacity) :
    (m.executing rig = true ∧ ∃ m₀ ready loadsBlock, Still m m₀ ∧ Loads rig m₀ ready loadsBlock ∧
      m.tick rig = advance rig ready loadsBlock) ∨
      m.executing rig = false ∧ Unmoved m (m.tick rig) := by
  cases busy : m.runtime.busy with
  | true =>
      right
      rw [tick_busy busy]
      exact ⟨by simp [executing, busy], (Still.refl m).unmoved⟩
  | false =>
      have runState := runState_applyStaged rig m
      rcases tick_acts rig busy with ⟨cause, m₀, refused, same⟩ | ⟨m₀, taken, same⟩
      · right
        have rests : m.executing rig = false := by
          simp [executing, refused, Except.isOk, Except.toBool]
        rw [same]
        exact ⟨rests, (still_alarmed refused).unmoved⟩
      · rw [taken] at runState
        have guarded := still_begun taken
        have fetches : m.executing rig = (m₀.setBusy true).fetches := by
          rw [fetches_congr guarded runState]
          simp [executing, busy, taken, Except.isOk, Except.toBool]
        rw [same, fetches]
        rcases execute_fetches rig (m₀.setBusy true) with
          ⟨fetched, ready, loadsBlock, loads, executed⟩ | ⟨rest, unmoved⟩
        · exact Or.inl ⟨fetched, _, ready, loadsBlock, guarded, loads, executed⟩
        · exact Or.inr ⟨rest, guarded.unmoved.trans unmoved⟩

end Tick

/-- The distance left is what the step events have added, less what was drawn. -/
structure Balanced (settings : Settings) (m : Machine H capacity) (w : BlockQueue capacity)
    (d : Drawn) : Prop where
  drawn : d.rates ≠ []
  distance : m.runtime.distance = (d.stepDistance : Int) * (d.events + 1) - d.rates.sum
  within : (∀ r ∈ d.rates, 1 ≤ r ∧ r ≤ d.stepDistance) →
    0 ≤ m.runtime.distance ∧ m.runtime.distance < d.stepDistance
  front : m.runtime.load ≠ .block → ∃ b blocks, w.blocks = b :: blocks ∧
    (Rates.ofBlock b settings).stepDistance.toNat = d.stepDistance

section Advance

variable {settings : Settings} {m m' m₀ ready : Machine H capacity} {w w' : BlockQueue capacity}
  {first : Nat} {loadsBlock : Bool} {d : Drawn}

theorem Machine.Advances.segment (advances : Advances rig ready loadsBlock m') :
    m'.runtime.segment = ready.runtime.segment := by
  cases advances <;> rfl

theorem Machine.Advances.draws (advances : Advances rig ready loadsBlock m')
    (more : 0 < ready.runtime.stepsRemaining.toNat) :
    (m'.runtime.stepsRemaining = ready.runtime.stepsRemaining ∧
        m'.runtime.distance = ready.runtime.distance - (m'.ratePerTick rig).toNat ∧
        (0 ≤ m'.runtime.distance ∨ loadsBlock = true)) ∨
      ready.runtime.stepsRemaining.toNat = m'.runtime.stepsRemaining.toNat + 1 ∧
        m'.runtime.distance =
          ready.runtime.distance - (m'.ratePerTick rig).toNat + stepDistance ready ∧
        ready.runtime.distance < (m'.ratePerTick rig).toNat := by
  cases advances with
  | coasts cause => exact Or.inl ⟨rfl, rfl, cause⟩
  | steps due =>
      right
      have fewer := toNat_stepsRemaining_stepEvent rig
        (ready.paced rig (nextDistance rig ready + stepDistance ready))
      refine ⟨?_, rfl, Int.lt_of_sub_neg due⟩
      show _ = (stepEvent rig _).runtime.stepsRemaining.toNat + 1
      rw [fewer]
      exact (Nat.sub_add_cancel more).symm

theorem Machine.Advances.stepDistance (advances : Advances rig ready true m') :
    stepDistance m' = stepDistance ready := by
  cases advances with
  | coasts => rfl
  | steps _ other => contradiction

theorem eventsTaken_eq (still : Still m m₀) (loads : Loads rig m₀ ready loadsBlock)
    (advances : Advances rig ready loadsBlock m') :
    eventsTaken m m' =
      ready.runtime.stepsRemaining.toNat - m'.runtime.stepsRemaining.toNat := by
  have before : (if m.runtime.load = .nothing then m.runtime.stepsRemaining
      else ready.runtime.segment.steps) = ready.runtime.stepsRemaining := by
    rw [← still.load, ← still.stepsRemaining]
    cases loads with
    | nothing load => rw [if_pos load]
    | segment due => rw [if_neg (ne_of_eq_of_ne due (by decide))]; rfl
    | block due => rw [if_neg (ne_of_eq_of_ne due (by decide))]; rfl
  rw [eventsTaken, advances.segment, before]

theorem Listed.stepDistance_eq (listed : Listed settings m w first)
    (load : m.runtime.load = .nothing) :
    ∃ b blocks, w.blocks = b :: blocks ∧
      (Rates.ofBlock b settings).stepDistance.toNat = stepDistance m := by
  have executing : m.pipeline.segments.peek? = some m.runtime.segment :=
    listed.coherent.executing load
  obtain ⟨b, blocks, planned, _, rates⟩ := listed.front executing
  refine ⟨b, blocks, planned, ?_⟩
  rw [stepDistance, rates]

theorem front_of_worked {b : Block} {blocks : List Block} (planned : w.blocks = b :: blocks)
    (worked : Worked m m' w w') (other : m'.runtime.load ≠ .block) : w'.blocks = b :: blocks := by
  cases worked with
  | goesOn => exact planned
  | crosses _ _ due => exact absurd due other

theorem Balanced.begins (listed : Listed rig.settings ready w first)
    (load : ready.runtime.load = .nothing)
    (distance : ready.runtime.distance = stepDistance ready)
    (advances : Advances rig ready true m') (worked : Worked ready m' w w') :
    Balanced rig.settings m' w' (Drawn.tick (m'.ratePerTick rig).toNat
      (ready.runtime.stepsRemaining.toNat - m'.runtime.stepsRemaining.toNat)
      { stepDistance := stepDistance m' }) := by
  obtain ⟨b, blocks, planned, same⟩ := listed.stepDistance_eq load
  have resting : m'.runtime.stepsRemaining = ready.runtime.stepsRemaining ∧
      m'.runtime.distance = stepDistance ready - (m'.ratePerTick rig).toNat := by
    rw [← distance]
    cases advances with
    | coasts => exact ⟨rfl, rfl⟩
    | steps _ other => contradiction
  obtain ⟨left, drawn⟩ := resting
  rw [advances.stepDistance, left, Nat.sub_self]
  refine { drawn := List.cons_ne_nil _ _, distance := ?_, within := ?_, front := ?_ }
  · rw [drawn]
    simp [Drawn.tick]
  · intro bounded
    have fits := bounded _ List.mem_cons_self
    simp only [Drawn.tick] at fits ⊢
    omega
  · intro other
    exact ⟨b, blocks, front_of_worked planned worked other, same⟩

theorem Balanced.advances (balanced : Balanced rig.settings ready w d)
    (listed : Listed rig.settings ready w first) (load : ready.runtime.load = .nothing)
    (advances : Advances rig ready false m') (worked : Worked ready m' w w') :
    Balanced rig.settings m' w' (d.tick (m'.ratePerTick rig).toNat
      (ready.runtime.stepsRemaining.toNat - m'.runtime.stepsRemaining.toNat)) := by
  obtain ⟨b, blocks, planned, same⟩ := balanced.front (ne_of_eq_of_ne load (by decide))
  have unit : stepDistance ready = d.stepDistance := by
    obtain ⟨b', blocks', planned', same'⟩ := listed.stepDistance_eq load
    obtain ⟨rfl, _⟩ := List.cons.inj (planned.symm.trans planned')
    exact same'.symm.trans same
  have before := balanced.distance
  have front : m'.runtime.load ≠ .block → ∃ b blocks, w'.blocks = b :: blocks ∧
      (Rates.ofBlock b rig.settings).stepDistance.toNat = d.stepDistance :=
    fun other => ⟨b, blocks, front_of_worked planned worked other, same⟩
  have inside (bounded : ∀ r ∈ (m'.ratePerTick rig).toNat :: d.rates, 1 ≤ r ∧ r ≤ d.stepDistance) :=
    balanced.within fun r member => bounded r (List.mem_cons_of_mem _ member)
  rcases advances.draws (listed.coherent.left load) with ⟨left, drawn, ahead⟩ | ⟨left, drawn, due⟩
  · have ahead : 0 ≤ m'.runtime.distance := by simpa using ahead
    rw [left, Nat.sub_self]
    refine { drawn := List.cons_ne_nil _ _, distance := ?_, within := ?_, front := front }
    · rw [drawn, before]
      simp only [Drawn.tick, List.sum_cons, Nat.add_zero, Nat.cast_add]
      omega
    · intro bounded
      have earlier := inside bounded
      refine ⟨ahead, ?_⟩
      show _ < (d.stepDistance : Int)
      omega
  · rw [left, Nat.add_sub_cancel_left]
    refine { drawn := List.cons_ne_nil _ _, distance := ?_, within := ?_, front := front }
    · rw [drawn, before, unit]
      simp only [Drawn.tick, List.sum_cons, Nat.cast_add, Nat.cast_one]
      ring
    · intro bounded
      have earlier := inside bounded
      have fits := bounded _ List.mem_cons_self
      simp only [Drawn.tick] at fits
      rw [unit] at drawn
      show _ ∧ _ < (d.stepDistance : Int)
      omega

end Advance

structure Audited (settings : Settings) (m : Machine H capacity) (drawn : Option Drawn) : Prop where
  listed : ∃ w first, Listed settings m w first ∧ ∀ d, drawn = some d → Balanced settings m w d
  begun : m.runtime.load ≠ .block → drawn ≠ none

structure Lasts (m m' : Machine H capacity) : Prop where
  counters : m'.runtime.counters = m.runtime.counters
  distance : m'.runtime.distance = m.runtime.distance
  block : m'.runtime.block = m.runtime.block
  goesOn : m'.runtime.load ≠ .block → m'.runtime.load = m.runtime.load ∧
    m'.runtime.segment = m.runtime.segment ∧ m'.runtime.stepsRemaining = m.runtime.stepsRemaining

namespace Lasts

variable {m m' : Machine H capacity}

theorem of_runtime (same : m'.runtime = m.runtime) : Lasts m m' := by
  constructor
  · rw [same]
  · rw [same]
  · rw [same]
  · rw [same]
    exact fun _ => ⟨rfl, rfl, rfl⟩

theorem still (still : Still m m') : Lasts m m' :=
  { counters := still.counters, distance := still.distance, block := still.block
    goesOn := fun _ => ⟨still.load, still.segment, still.stepsRemaining⟩ }

theorem asked (still : Still m.requestBlock m') : Lasts m m' :=
  { counters := still.counters, distance := still.distance, block := still.block
    goesOn := fun other => absurd still.load other }

theorem load_ne (lasts : Lasts m m') (other : m'.runtime.load ≠ .block) :
    m.runtime.load ≠ .block := by
  rw [← (lasts.goesOn other).1]
  exact other

theorem perform {op : Operation} {reply : Reply} (goesOn : op.restarts = false)
    (notTicking : op ≠ .tick) (performed : m.perform rig op = .ok (reply, m')) : Lasts m m' := by
  by_cases slicing : op = .prepareSegments
  · subst slicing
    obtain ⟨p, count, _, rfl⟩ := prepareSegments_performed performed
    exact of_runtime rfl
  cases keeps : op.keepsBlocks with
  | true =>
      cases perform_interlude keeps goesOn slicing notTicking performed with
      | still same => exact still same
      | asked same => exact asked same
      | queued => exact of_runtime rfl
      | placed axis steps => exact of_runtime rfl
  | false =>
      cases performs performed with
      | discardBlock => exact of_runtime rfl
      | clearBlocks => exact of_runtime rfl
      | _ => contradiction

end Lasts

namespace Balanced

variable {settings : Settings} {m m' : Machine H capacity} {w w' : BlockQueue capacity} {d : Drawn}

theorem congr (balanced : Balanced settings m w d)
    (distance : m'.runtime.distance = m.runtime.distance)
    (load : m'.runtime.load ≠ .block → m.runtime.load ≠ .block)
    (front : ∀ {b blocks}, m'.runtime.load ≠ .block → w.blocks = b :: blocks →
      ∃ blocks', w'.blocks = b :: blocks') : Balanced settings m' w' d := by
  refine { drawn := balanced.drawn, distance := ?_, within := ?_, front := ?_ }
  · rw [distance]
    exact balanced.distance
  · rw [distance]
    exact balanced.within
  · intro other
    obtain ⟨b, blocks, planned, same⟩ := balanced.front (load other)
    obtain ⟨blocks', planned'⟩ := front other planned
    exact ⟨b, blocks', planned', same⟩

end Balanced

namespace Audited

variable {settings : Settings} {m m' : Machine H capacity} {drawn : Option Drawn}

protected theorem fresh (settings : Settings) (hardware : H) {q : BlockQueue capacity}
    (eventful : ∀ b ∈ q.blocks, b.events ≠ 0) :
    Audited settings (Machine.fresh hardware q) none :=
  { listed := ⟨_, 0, Listed.fresh settings hardware eventful, nofun⟩
    begun := fun other => absurd rfl other }

theorem restarted (audited : Audited settings m drawn) (still : Still m.reset m') :
    Audited settings m' none := by
  obtain ⟨w, first, listed, _⟩ := audited.listed
  refine { listed := ⟨_, 0, listed.restarted still, nofun⟩, begun := ?_ }
  rw [still.load]
  exact fun other => absurd rfl other

theorem of_balanced {w : BlockQueue capacity} {first : Nat} {d : Drawn}
    (listed : Listed settings m w first) (balanced : Balanced settings m w d) :
    Audited settings m (some d) := by
  refine { listed := ⟨w, first, listed, ?_⟩, begun := fun _ => Option.some_ne_none d }
  intro d' drew
  obtain rfl := Option.some.inj drew
  exact balanced

theorem rests (audited : Audited rig.settings m drawn) (unmoved : Unmoved m (m.tick rig)) :
    Audited rig.settings (m.tick rig) drawn := by
  obtain ⟨w, first, listed, balanced⟩ := audited.listed
  obtain ⟨w', first', listed', worked⟩ := listed.ticks (Machine.ticks rig m)
  constructor
  · refine ⟨w', first', listed', fun d drew => (balanced d drew).congr unmoved.distance ?_ ?_⟩
    · rw [unmoved.load]
      exact fun other => other
    · exact fun other planned => ⟨_, front_of_worked planned worked other⟩
  · rw [unmoved.load]
    exact audited.begun

theorem tick (audited : Audited rig.settings m drawn) :
    Audited rig.settings (m.tick rig) (draw rig m .tick (m.tick rig) drawn) := by
  rcases tick_executing rig m with
    ⟨executing, m₀, ready, loadsBlock, still, loads, ticks⟩ | ⟨rest, unmoved⟩
  · obtain ⟨w, first, listed, balanced⟩ := audited.listed
    have advances : Advances rig ready loadsBlock (m.tick rig) := Machine.advances ticks.symm
    have loaded := (listed.still still).loads loads
    obtain ⟨w', first', listed', worked⟩ := loaded.advances loads.load advances
    have due := loads.due_iff
    rw [still.load] at due
    rw [draw, if_pos executing, eventsTaken_eq still loads advances]
    cases loadsBlock with
    | true =>
        have distance : ready.runtime.distance = stepDistance ready := by
          cases loads
          rfl
        simp only [if_pos (due.mpr rfl), Option.map_some]
        exact of_balanced listed' (.begins loaded loads.load distance advances worked)
    | false =>
        have unblocked : m.runtime.load ≠ .block := fun block => Bool.false_ne_true (due.mp block)
        obtain ⟨d, rfl⟩ := Option.ne_none_iff_exists'.mp (audited.begun unblocked)
        have distance : ready.runtime.distance = m.runtime.distance := by
          rw [← still.distance]
          cases loads <;> rfl
        have before : Balanced rig.settings ready w d :=
          (balanced d rfl).congr distance (fun _ => unblocked) fun _ planned => ⟨_, planned⟩
        simp only [if_neg unblocked, Option.map_some]
        exact of_balanced listed' (before.advances loaded loads.load advances worked)
  · have same : draw rig m .tick (m.tick rig) drawn = drawn := by simp [draw, rest]
    rw [same]
    exact audited.rests unmoved

theorem perform {op : Operation} {reply : Reply} (audited : Audited rig.settings m drawn)
    (performed : m.perform rig op = .ok (reply, m')) :
    Audited rig.settings m' (draw rig m op m' drawn) := by
  cases restarts : op.restarts with
  | true =>
      have anew := audited.restarted (perform_restarts restarts performed)
      cases op with
      | init => exact anew
      | reset => exact anew
      | _ => contradiction
  | false =>
      by_cases ticking : op = .tick
      · subst ticking
        cases performs performed
        exact audited.tick
      have same : draw rig m op m' drawn = drawn := by
        cases op with
        | init => contradiction
        | reset => contradiction
        | tick => exact absurd rfl ticking
        | _ => rfl
      obtain ⟨w, first, listed, balanced⟩ := audited.listed
      obtain ⟨w', listed', _, older, _⟩ := listed.perform restarts ticking performed
      have lasts := Lasts.perform restarts ticking performed
      rw [same]
      refine
        { listed := ⟨w', first, listed', fun d drew =>
            (balanced d drew).congr lasts.distance lasts.load_ne ?_⟩
          begun := fun other => audited.begun (lasts.load_ne other) }
      intro b blocks _ planned
      obtain ⟨more, longer⟩ := older
      exact ⟨blocks ++ more, by rw [← longer, planned, List.cons_append]⟩

theorem run {rule : Rule H capacity} {start : Machine H capacity} {blank : Option Drawn}
    (initially : Audited rig.settings start blank)
    (ran : Run rig rule (draw rig) start blank m drawn) : Audited rig.settings m drawn := by
  induction ran with
  | start => exact initially
  | step _ _ performed ih => exact ih.perform performed

end Audited

/-- What the rates that were drawn for a block make of its step events, and what is left. -/
structure InTime (m : Machine H capacity) (d : Drawn) : Prop where
  events : d.events + 1 = d.rates.sum ⌈/⌉ d.stepDistance
  distance : m.runtime.distance = (d.stepDistance : Int) * (d.events + 1) - d.rates.sum
  nonneg : 0 ≤ m.runtime.distance
  lt : m.runtime.distance < d.stepDistance

theorem succ_eq_ceilDiv {unit events sum : Nat} {left : Int}
    (balance : left = (unit : Int) * (events + 1) - sum) (nonneg : 0 ≤ left) (lt : left < unit) :
    events + 1 = sum ⌈/⌉ unit := by
  have product : (unit : Int) * (events + 1) = ((events + 1) * unit : Nat) := by
    rw [Nat.cast_mul, Nat.cast_succ, Int.mul_comm]
  have next : (events + 1 + 1) * unit = (events + 1) * unit + unit := Nat.succ_mul _ _
  rw [product] at balance
  rw [Nat.ceilDiv_eq_add_pred_div]
  refine (Nat.div_eq_of_lt_le ?_ ?_).symm
  · omega
  · rw [next]
    omega

/-- In any order of operations, with blocks taken from the planner at any time and with any
refusals: while the rates drawn for a block lie between one and its step distance, they settle how
many step events have taken place, and exactly what distance is left. -/
theorem inverse_time_exact (rig : Rig H) (hardware : H) {q : BlockQueue capacity}
    (eventful : ∀ b ∈ q.blocks, b.events ≠ 0) {m : Machine H capacity} {d : Drawn}
    (ran : Run rig unrestricted (draw rig) (Machine.fresh hardware q) none m (some d))
    (bounded : ∀ r ∈ d.rates, 1 ≤ r ∧ r ≤ d.stepDistance) : InTime m d := by
  obtain ⟨w, first, _, balanced⟩ := ((Audited.fresh rig.settings hardware eventful).run ran).listed
  have balance := balanced d rfl
  obtain ⟨nonneg, lt⟩ := balance.within bounded
  exact
    { events := succ_eq_ceilDiv balance.distance nonneg lt
      distance := balance.distance, nonneg := nonneg, lt := lt }

def Block.brisk : Block := { Block.sample with acceleration := 648000.0 }

def briskRig : Rig Unit :=
  Rig.bench { segmentStepCap := 2, tickFrequency := ⟨60⟩, accelerationTicks := 60
              minimumStepRate := 300000 } Sizing.fixed

theorem in_time_across_hold :
    ∃ (m : Machine Unit 4) (d : Drawn),
      Run briskRig unrestricted (draw briskRig) (Machine.fresh () {}) none m (some d) ∧
      d.rates = [666667, 1166667, 1666667, 1666667, 1666667, 1500000, 1000000, 500000] ∧
      d.events = 2 ∧ (∀ r ∈ d.rates, 1 ≤ r ∧ r ≤ d.stepDistance) ∧ InTime m d := by
  obtain ⟨m, drawn, ran, shown⟩ := exists_unrestricted briskRig (draw briskRig)
    (Machine.fresh () {} : Machine Unit 4) none
    [.pushBlock .brisk, .prepareSegments, .queue, .cycleStart, .tick, .clearBlocks, .tick, .tick,
      .tick, .feedHold, .tick, .tick, .cycleStart, .tick, .tick]
    (fun r => r.2 == some
      { stepDistance := 3333334
        rates := [666667, 1166667, 1666667, 1666667, 1666667, 1500000, 1000000, 500000]
        events := 2 }) (by decide +kernel)
  obtain rfl := eq_of_beq shown
  have bounded : ∀ r ∈ [666667, 1166667, 1666667, 1666667, 1666667, 1500000, 1000000, 500000],
      1 ≤ r ∧ r ≤ 3333334 := by decide
  exact ⟨m, _, ran, rfl, rfl, bounded, inverse_time_exact briskRig () (by decide) ran bounded⟩

end StepPulse
