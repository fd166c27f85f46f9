import StepPulse.Proofs.Machine.Faultless
import StepPulse.Proofs.Machine.Provenance

/-!
A feed hold leaves no trace. A hold takes effect where the next load is due, after the staged image
went out and before anything is loaded. So when it is resumed at once, the tick that makes up for
the stopped one finds the machine as that tick found it, save for the image that is written already.
What remains of the hold are the calls that stop and start the tick source.
-/

namespace StepPulse

open Machine

variable {H : Type} {capacity : Nat}

namespace Journal

def unticked (journal : Journal) : Journal :=
  journal.filter fun entry => entry.call ≠ .startTicks ∧ entry.call ≠ .stopTicks

/-- The same calls, save for starts and stops of the tick source that have made no difference. -/
structure Echoes (journal journal' : Journal) : Prop where
  unticked : journal'.unticked = journal.unticked
  ticking : journal'.ticking = journal.ticking

theorem unticked_cons (entry : Entry) (journal : Journal) :
    unticked (entry :: journal) = unticked [entry] ++ unticked journal := by
  rw [unticked, unticked, unticked, ← List.filter_append]
  rfl

theorem images_unticked (journal : Journal) : journal.unticked.images = journal.images := by
  induction journal with
  | nil => rfl
  | cons entry journal ih =>
      have apart : images (entry :: journal) = images [entry] ++ images journal :=
        List.filterMap_append (l := [entry])
      rw [unticked_cons, images, List.filterMap_append, ← images, ← images, ih, apart]
      congr 1
      cases entry with
      | mk call refusal => cases call <;> rfl

namespace Echoes

variable {journal journal' : Journal}

theorem cons (echoes : Echoes journal journal') (entry : Entry) :
    Echoes (entry :: journal) (entry :: journal') := by
  constructor
  · rw [unticked_cons entry journal', unticked_cons entry journal, echoes.unticked]
  · cases entry with
    | mk call refusal =>
        cases call
        case startTicks => rfl
        case stopTicks => rfl
        all_goals exact echoes.ticking

theorem append (echoes : Echoes journal journal') (calls : Journal) :
    Echoes (calls ++ journal) (calls ++ journal') := by
  induction calls with
  | nil => exact echoes
  | cons entry calls ih => exact ih.cons entry

theorem started (echoes : Echoes journal journal') (ticking : journal.ticking = true) :
    Echoes journal (⟨.startTicks, none⟩ :: journal') :=
  { unticked := echoes.unticked, ticking := ticking.symm }

theorem restarted (echoes : Echoes journal journal') (ticking : journal.ticking = true) :
    Echoes journal (⟨.startTicks, none⟩ :: ⟨.stopTicks, none⟩ :: journal') :=
  { unticked := echoes.unticked, ticking := ticking.symm }

end Echoes

end Journal

namespace Machine

def onto (hardware : Watched H) (runState : RunState) (cycleStop : Bool)
    (m : Machine (Watched H) capacity) : Machine (Watched H) capacity :=
  { m with hardware := hardware, runState := runState, cycleStop := cycleStop }

end Machine

inductive InStep (n : Machine (Watched H) capacity) : Machine (Watched H) capacity → Prop
  | onto {hardware : Watched H} (runState : RunState) (cycleStop : Bool) :
      n.journal.Echoes hardware.journal → InStep n (n.onto hardware runState cycleStop)

namespace InStep

variable {rig : Rig H} {n n' m : Machine (Watched H) capacity}

theorem map {f : Machine (Watched H) capacity → Machine (Watched H) capacity}
    (inStep : InStep n n') (hardware : (f n).hardware = n.hardware)
    (commutes : ∀ hardware runState cycleStop,
      f (n.onto hardware runState cycleStop) = (f n).onto hardware runState cycleStop) :
    InStep (f n) (f n') := by
  cases inStep with
  | @onto w runState cycleStop echoes =>
      rw [commutes]
      apply InStep.onto
      rw [journal, hardware]
      exact echoes

theorem after (inStep : InStep n n') (calls : Journal) (hardware hardware' : H) :
    InStep (n.after calls hardware) (n'.after calls hardware') := by
  cases inStep with
  | onto runState cycleStop echoes => exact .onto runState cycleStop (echoes.append calls)

theorem runtime (inStep : InStep n n') : n'.runtime = n.runtime := by
  cases inStep
  rfl

theorem pipeline (inStep : InStep n n') : n'.pipeline = n.pipeline := by
  cases inStep
  rfl

theorem planner (inStep : InStep n n') : n'.planner = n.planner := by
  cases inStep
  rfl

theorem position (inStep : InStep n n') : n'.position = n.position := by
  cases inStep
  rfl

theorem echoes (inStep : InStep n n') : n.journal.Echoes n'.journal := by
  cases inStep with
  | onto _ _ echoes => exact echoes

theorem setBusy (inStep : InStep n n') (busy : Bool) : InStep (n.setBusy busy) (n'.setBusy busy) := by
  apply inStep.map (f := fun m => m.setBusy busy)
  · rfl
  · intro hardware runState cycleStop
    rfl

theorem advance (inStep : InStep n n') (rig : Rig (Watched H)) (loadsBlock : Bool) :
    InStep (advance rig n loadsBlock) (advance rig n' loadsBlock) := by
  apply inStep.map (f := fun m => Machine.advance rig m loadsBlock)
  · exact (Machine.advances rfl).hardware
  · intro hardware runState cycleStop
    by_cases due : nextDistance rig n < 0 ∧ ¬ loadsBlock = true
    · have due' : nextDistance rig (n.onto hardware runState cycleStop) < 0 ∧
          ¬ loadsBlock = true := due
      rw [advance_of_due due, advance_of_due due']
      rfl
    · have rest' : ¬ (nextDistance rig (n.onto hardware runState cycleStop) < 0 ∧
          ¬ loadsBlock = true) := due
      rw [advance_of_not_due due, advance_of_not_due rest']
      rfl

theorem advanced (inStep : InStep n n') (same : n'.runState = n.runState) (rig : Rig (Watched H))
    (loadsBlock : Bool) :
    InStep (Machine.advance rig n loadsBlock) (Machine.advance rig n' loadsBlock) ∧
      (Machine.advance rig n' loadsBlock).runState = (Machine.advance rig n loadsBlock).runState := by
  constructor
  · exact inStep.advance rig loadsBlock
  · rw [(Machine.advances rfl).runState, (Machine.advances rfl).runState, same]

theorem loadSegment (inStep : InStep n n') (s : Segment) :
    InStep (loadSegment n s) (loadSegment n' s) := by
  apply inStep.map (f := fun m => Machine.loadSegment m s)
  · rfl
  · intro hardware runState cycleStop
    rfl

theorem finishLoad (inStep : InStep n n') (rig : Rig (Watched H)) :
    InStep (finishLoad rig n) (finishLoad rig n') := by
  apply inStep.map (f := Machine.finishLoad rig)
  · rfl
  · intro hardware runState cycleStop
    rfl

theorem loadBlock (inStep : InStep n n') (rig : Rig (Watched H)) (b : ActiveBlock) :
    InStep (loadBlock rig n b) (loadBlock rig n' b) := by
  apply inStep.map (f := fun m => Machine.loadBlock rig m b)
  · rfl
  · intro hardware runState cycleStop
    rfl

theorem relabelled (inStep : InStep n n') (runState runState' : RunState) (stop stop' : Bool) :
    InStep { n with runState := runState, cycleStop := stop }
      { n' with runState := runState', cycleStop := stop' } := by
  cases inStep with
  | onto _ _ echoes => exact .onto runState' stop' echoes

theorem rested (inStep : InStep n n') (runState runState' : RunState) (stop stop' : Bool) :
    InStep (n.rested runState stop) (n'.rested runState' stop') :=
  (inStep.setBusy false).relabelled runState runState' stop stop'

section Faultless

variable (faultless : rig.Faultless) (inStep : InStep n n')

include faultless inStep

theorem applyStaged :
    InStep (applyStaged rig.watched n).2 (applyStaged rig.watched n').2 := by
  cases staged : n.runtime.staged with
  | none =>
      have staged' : n'.runtime.staged = none := by rw [inStep.runtime, staged]
      simp only [Machine.applyStaged, staged, staged']
      exact inStep
  | some image =>
      have staged' : n'.runtime.staged = some image := by rw [inStep.runtime, staged]
      obtain ⟨_, applied⟩ := faultless.applyStaged_after n staged
      obtain ⟨_, applied'⟩ := faultless.applyStaged_after n' staged'
      rw [applied, applied']
      apply InStep.after
      apply inStep.map (f := unstaged)
      · rfl
      · intro hardware runState cycleStop
        rfl

theorem onPulseReset : InStep (onPulseReset rig.watched n) (onPulseReset rig.watched n') := by
  obtain ⟨_, ended⟩ := faultless.onPulseReset_after n
  obtain ⟨_, ended'⟩ := faultless.onPulseReset_after n'
  rw [ended, ended']
  exact inStep.after _ _ _

theorem enterAlarm : InStep (enterAlarm rig.watched n) (enterAlarm rig.watched n') := by
  obtain ⟨_, _, alarmed⟩ := enterAlarm_after rig n
  obtain ⟨_, _, alarmed'⟩ := enterAlarm_after rig n'
  rw [alarmed, alarmed', faultless.disable, faultless.disable]
  exact (inStep.rested .alarm .alarm true true).after _ _ _

theorem finishCycle (same : n'.runState = n.runState) :
    InStep (finishCycle rig.watched n) (finishCycle rig.watched n') ∧
      (Machine.finishCycle rig.watched n').runState =
        (Machine.finishCycle rig.watched n).runState := by
  obtain ⟨calls, _, idling, finished⟩ := faultless.finishCycle_after n
  obtain ⟨calls', _, idling', finished'⟩ := faultless.finishCycle_after n'
  rw [same] at idling' finished'
  obtain rfl : calls = calls' := idling.unique idling'
  rw [finished, finished']
  exact ⟨(inStep.rested _ _ _ _).after _ _ _, rfl⟩

theorem execute (same : n'.runState = n.runState) (unheld : n.runState ≠ .hold) :
    InStep (execute rig.watched n) (execute rig.watched n') ∧
      (Machine.execute rig.watched n').runState = (Machine.execute rig.watched n).runState := by
  have unheld' : n'.runState ≠ .hold := by rwa [same]
  have load : n'.runtime.load = n.runtime.load := by rw [inStep.runtime]
  have peeked' : n'.pipeline.segments.peek? = n.pipeline.segments.peek? := by rw [inStep.pipeline]
  by_cases loaded : n.runtime.load = .nothing
  · rw [execute_loaded loaded, execute_loaded (load.trans loaded)]
    exact inStep.advanced same rig.watched false
  have due' : n'.runtime.load ≠ .nothing := by rwa [load]
  cases peeked : n.pipeline.segments.peek? with
  | none =>
      rw [execute_dry loaded unheld peeked, execute_dry due' unheld' (peeked'.trans peeked)]
      exact inStep.finishCycle faultless same
  | some s =>
      have front := inStep.loadSegment s
      cases due : n.runtime.load with
      | nothing => exact absurd due loaded
      | segment =>
          rw [execute_segment due unheld peeked,
            execute_segment (load.trans due) unheld' (peeked'.trans peeked)]
          exact (front.finishLoad rig.watched).advanced same rig.watched false
      | block =>
          have current' : n'.planner.current? = n.planner.current? := by rw [inStep.planner]
          cases current : n.planner.current? with
          | none =>
              rw [execute_orphaned due unheld peeked current, execute_orphaned (load.trans due)
                unheld' (peeked'.trans peeked) (current'.trans current)]
              exact ⟨front.enterAlarm faultless, rfl⟩
          | some b =>
              rw [execute_block due unheld peeked current, execute_block (load.trans due)
                unheld' (peeked'.trans peeked) (current'.trans current)]
              have block := (front.loadBlock rig.watched b.active).finishLoad rig.watched
              exact block.advanced same rig.watched true

theorem tick (same : n'.runState = n.runState) (unheld : n.runState ≠ .hold) :
    InStep (n.tick rig.watched) (n'.tick rig.watched) ∧
      (n'.tick rig.watched).runState = (n.tick rig.watched).runState := by
  cases busy : n.runtime.busy with
  | true =>
      rw [tick_busy busy, tick_busy (by rw [inStep.runtime, busy])]
      exact ⟨inStep, same⟩
  | false =>
      obtain ⟨m, applied, done⟩ := faultless.applyStaged n Lines.none
      obtain ⟨m', applied', done'⟩ := faultless.applyStaged n' Lines.none
      have written := inStep.applyStaged faultless
      rw [applied, applied'] at written
      rw [tick_applied busy applied, tick_applied (by rw [inStep.runtime, busy]) applied']
      apply (written.setBusy true).execute faultless
      · exact done'.runState.trans (same.trans done.runState.symm)
      · show m.runState ≠ .hold
        rw [done.runState]
        exact unheld

end Faultless

end InStep

def Driven (m : Machine (Watched H) capacity) : Prop :=
  m.runState = .cycle ∧ m.ticking = true ∨ m.runState = .idle ∨ m.runState = .alarm

namespace Driven

variable {rig : Rig H} {m m' : Machine (Watched H) capacity}

theorem congr (driven : Driven m) (runState : m'.runState = m.runState)
    (ticking : m'.ticking = m.ticking) : Driven m' := by
  rw [Driven, runState, ticking]
  exact driven

theorem unheld (driven : Driven m) : m.runState ≠ .hold := by
  rcases driven with ⟨state, _⟩ | state | state <;> rw [state] <;> exact nofun

theorem unqueued (driven : Driven m) : m.runState ≠ .queued := by
  rcases driven with ⟨state, _⟩ | state | state <;> rw [state] <;> exact nofun

theorem finishCycle (rig : Rig H) (driven : Driven m) : Driven (finishCycle rig.watched m) := by
  obtain ⟨runState, rests, alarm | ended⟩ := (finishes rig m).rests
  · exact Or.inr (Or.inr (rests.runState.trans alarm))
  · right
    rw [rests.runState, ended]
    split
    · exact Or.inl rfl
    · next other => exact driven.resolve_left fun cycle => other cycle.1

theorem tick (faultless : rig.Faultless) (driven : Driven m) : Driven (m.tick rig.watched) := by
  rcases tick_cases rig.watched m with ⟨_, same⟩ | ⟨cause, m₀, _, same⟩ | ⟨m₀, applied, executes⟩
  · rwa [same]
  · rw [same]
    exact Or.inr (Or.inr rfl)
  · obtain ⟨m₁, applied', done⟩ := faultless.applyStaged m Lines.none
    obtain ⟨_, rfl⟩ := Prod.mk.inj (applied.symm.trans applied')
    have begun : Driven (m₀.setBusy true) := driven.congr done.runState done.ticking
    generalize m.tick rig.watched = m' at executes
    cases executes with
    | advances loads =>
        exact begun.congr loads.runState_advance
          (congrArg (fun w => w.journal.ticking) loads.hardware_advance)
    | holds hold => exact absurd hold begun.unheld
    | runsDry => exact begun.finishCycle rig
    | orphaned => exact Or.inr (Or.inr rfl)

end Driven

namespace Machine

/-- A tick, and where it completes a hold, a start of the cycle at once and a tick that makes up for
the stopped one. -/
def resumingTick (rig : Rig (Watched H)) (m : Machine (Watched H) capacity) :
    Machine (Watched H) capacity :=
  let ticked := m.tick rig
  if ticked.runState = .hold ∧ ticked.ticking = false then (ticked.cycleStart rig).2.tick rig
  else ticked

end Machine

structure Resumed (n n' : Machine (Watched H) capacity) : Prop where
  inStep : InStep n n'
  holding : n'.runState = n.runState ∨ n.runState = .cycle ∧ n'.runState = .hold
  driven : Driven n

namespace Resumed

variable {rig : Rig H} {n n' : Machine (Watched H) capacity}

theorem execute_within (rig : Rig H) (inStep : InStep n n') (load : n.runtime.load = .nothing) :
    InStep (execute rig.watched n) (execute rig.watched n') ∧
      (execute rig.watched n').runState = n'.runState ∧
      (execute rig.watched n').ticking = n'.ticking := by
  rw [execute_loaded load, execute_loaded (by rw [inStep.runtime, load])]
  refine ⟨inStep.advance rig.watched false, (advances rfl).runState, ?_⟩
  have hardware : (advance rig.watched n' false).hardware = n'.hardware := (advances rfl).hardware
  rw [ticking, journal, hardware]
  rfl

/-- With a load due the hold stops the machine, and the start of the cycle brings it back to where
the load is due. -/
theorem cycleStart_held (rig : Rig H) (inStep : InStep n n') (ticking : n.ticking = true)
    (due : n.runtime.load ≠ .nothing) (hold : n'.runState = .hold) :
    (execute rig.watched n').runState = .hold ∧ (execute rig.watched n').ticking = false ∧
      InStep (n.setBusy false) ((execute rig.watched n').cycleStart rig.watched).2 ∧
      ((execute rig.watched n').cycleStart rig.watched).2.runState = .cycle := by
  have due' : n'.runtime.load ≠ .nothing := by rwa [inStep.runtime]
  rw [execute_held due' hold]
  have stopped : (finishHold rig.watched n').runState = .hold := hold
  refine ⟨stopped, rfl, ?_, ?_⟩
  · simp only [Machine.cycleStart, stopped]
    cases inStep with
    | onto _ _ echoes => exact .onto _ _ (echoes.restarted ticking)
  · simp only [Machine.cycleStart, stopped]
    rfl

/-- The staged image is out already, so that the second tick begins with the load. -/
theorem tick_again (faultless : rig.Faultless) (inStep : InStep (n.setBusy false) n')
    (staged : n.runtime.staged = none) (cycle : n.runState = .cycle)
    (started : n'.runState = .cycle) :
    InStep (execute rig.watched (n.setBusy true)) (n'.tick rig.watched) ∧
      (n'.tick rig.watched).runState = (execute rig.watched (n.setBusy true)).runState := by
  have free : n'.runtime.busy = false := by
    rw [inStep.runtime]
    rfl
  have staged' : n'.runtime.staged = none := by
    rw [inStep.runtime]
    exact staged
  rw [tick_applied free (applyStaged_none staged')]
  apply (inStep.setBusy true).execute faultless
  · exact started.trans cycle.symm
  · show n.runState ≠ .hold
    rw [cycle]
    exact nofun

theorem tick (faultless : rig.Faultless) (resumed : Resumed n n') (ticking : n.ticking = true) :
    Resumed (n.tick rig.watched) (n'.resumingTick rig.watched) := by
  have driven := resumed.driven.tick faultless
  rcases resumed.holding with same | ⟨cycle, hold⟩
  · -- No hold is pending, and both machines tick alike.
    obtain ⟨inStep, state⟩ := resumed.inStep.tick faultless same resumed.driven.unheld
    have free : ¬ ((n'.tick rig.watched).runState = .hold ∧ (n'.tick rig.watched).ticking = false) := by
      rintro ⟨hold, _⟩
      exact driven.unheld (state.symm.trans hold)
    rw [resumingTick, if_neg free]
    exact ⟨inStep, Or.inl state, driven⟩
  · have ticking' : n'.ticking = true := resumed.inStep.echoes.ticking.trans ticking
    cases busy : n.runtime.busy with
    | true =>
        have still : n'.tick rig.watched = n' := tick_busy (by rw [resumed.inStep.runtime, busy])
        have awaits : ¬ (n'.runState = .hold ∧ n'.ticking = false) := by
          rw [ticking']
          exact nofun
        rw [tick_busy busy, resumingTick, still, if_neg awaits]
        exact resumed
    | false =>
        obtain ⟨m, applied, done⟩ := faultless.applyStaged n Lines.none
        obtain ⟨m', applied', done'⟩ := faultless.applyStaged n' Lines.none
        have written : InStep (m.setBusy true) (m'.setBusy true) := by
          have written := resumed.inStep.applyStaged faultless
          rw [applied, applied'] at written
          exact written.setBusy true
        have ticked' := tick_applied (by rw [resumed.inStep.runtime, busy]) applied'
        have cycle₀ : m.runState = .cycle := done.runState.trans cycle
        have hold₀ : (m'.setBusy true).runState = .hold := done'.runState.trans hold
        rw [tick_applied busy applied] at driven ⊢
        rw [resumingTick, ticked']
        -- Within a segment the hold stays pending; with a load due it takes effect and is resumed.
        by_cases load : (m.setBusy true).runtime.load = .nothing
        · obtain ⟨inStep, state, ticks⟩ := execute_within rig written load
          have awaits : ¬ ((execute rig.watched (m'.setBusy true)).runState = .hold ∧
              (execute rig.watched (m'.setBusy true)).ticking = false) := by
            rw [ticks, show (m'.setBusy true).ticking = n'.ticking from done'.ticking, ticking']
            exact nofun
          have cycle' : (execute rig.watched (m.setBusy true)).runState = .cycle := by
            rw [execute_loaded load]
            exact (advances rfl).runState.trans cycle₀
          rw [if_neg awaits]
          exact ⟨inStep, Or.inr ⟨cycle', state.trans hold₀⟩, driven⟩
        · obtain ⟨state, stopped, inStep, started⟩ :=
            cycleStart_held rig written (done.ticking.trans ticking) load hold₀
          rw [if_pos ⟨state, stopped⟩]
          obtain ⟨again, state'⟩ := tick_again faultless inStep done.staged cycle₀ started
          exact ⟨again, Or.inl state', driven⟩

end Resumed

def Operation.goesOn : Operation → Bool
  | .prepareSegments => true
  | .pushBlock _ => true
  | .tick => true
  | .pulseReset => true
  | _ => false

def Operation.holds : Operation → Bool
  | .feedHold => true
  | .cycleStart => true
  | _ => false

namespace Machine

def proceed (rig : Rig (Watched H))
    (ticked : Machine (Watched H) capacity → Machine (Watched H) capacity)
    (m : Machine (Watched H) capacity) : Operation → Except ClampFault (Machine (Watched H) capacity)
  | .tick => .ok (if m.ticking then ticked m else m)
  | op => (m.perform rig op).map Prod.snd

def proceedAll (rig : Rig (Watched H))
    (ticked : Machine (Watched H) capacity → Machine (Watched H) capacity) :
    Machine (Watched H) capacity → List Operation →
      Except ClampFault (Machine (Watched H) capacity)
  | m, [] => .ok m
  | m, op :: ops =>
    match m.proceed rig ticked op with
    | .error fault => .error fault
    | .ok next => proceedAll rig ticked next ops

end Machine

inductive Matched : Except ClampFault (Machine (Watched H) capacity) →
    Except ClampFault (Machine (Watched H) capacity) → Prop
  | faulted (fault : ClampFault) : Matched (.error fault) (.error fault)
  | went {n n' : Machine (Watched H) capacity} : Resumed n n' → Matched (.ok n) (.ok n')

namespace Resumed

variable {rig : Rig H} {n n' : Machine (Watched H) capacity}

theorem map {f : Machine (Watched H) capacity → Machine (Watched H) capacity}
    (resumed : Resumed n n') (hardware : (f n).hardware = n.hardware)
    (runState : (f n).runState = n.runState)
    (commutes : ∀ hardware runState cycleStop,
      f (n.onto hardware runState cycleStop) = (f n).onto hardware runState cycleStop) :
    Resumed (f n) (f n') := by
  have holding := resumed.holding
  constructor
  case inStep => exact resumed.inStep.map hardware commutes
  case holding =>
    cases resumed.inStep with
    | onto _ _ _ =>
        rw [commutes, runState]
        exact holding
  case driven =>
    apply resumed.driven.congr runState
    rw [ticking, journal, hardware]
    rfl

theorem prepareSegments (resumed : Resumed n n') (rig : Rig (Watched H)) :
    Matched ((n.perform rig .prepareSegments).map Prod.snd)
      ((n'.perform rig .prepareSegments).map Prod.snd) := by
  cases filled : n.pipeline.prepare n.planner.source rig.sizing rig.settings with
  | error fault =>
      have filled' := filled
      rw [← resumed.inStep.pipeline, ← resumed.inStep.planner] at filled'
      simp only [perform, Machine.prepareSegments, filled, filled']
      exact .faulted fault
  | ok done =>
      have filled' := filled
      rw [← resumed.inStep.pipeline, ← resumed.inStep.planner] at filled'
      simp only [perform, Machine.prepareSegments, filled, filled']
      apply Matched.went
      apply resumed.map (f := fun m => { m with pipeline := done.1 })
      · rfl
      · rfl
      · intro hardware runState cycleStop
        rfl

theorem pushBlock (resumed : Resumed n n') (b : Block) :
    Resumed (n.pushBlock b).2 (n'.pushBlock b).2 := by
  apply resumed.map (f := fun m => (m.pushBlock b).2)
  · simp only [Machine.pushBlock]
    split <;> rfl
  · simp only [Machine.pushBlock]
    split <;> rfl
  · intro hardware runState cycleStop
    have planner : (n.onto hardware runState cycleStop).planner = n.planner := rfl
    simp only [Machine.pushBlock, planner]
    cases n.planner.push b <;> rfl

theorem pulseReset (faultless : rig.Faultless) (resumed : Resumed n n') :
    Resumed (n.onPulseReset rig.watched) (n'.onPulseReset rig.watched) := by
  obtain ⟨noted, ticking, _⟩ := faultless.onPulseReset n
  obtain ⟨noted', _⟩ := faultless.onPulseReset n'
  constructor
  case inStep => exact resumed.inStep.onPulseReset faultless
  case holding =>
    rw [noted.runState, noted'.runState]
    exact resumed.holding
  case driven => exact resumed.driven.congr noted.runState ticking

theorem feedHold (resumed : Resumed n n') : Resumed n n'.feedHold := by
  rw [Machine.feedHold]
  split
  · next cycle' =>
    have cycle : n.runState = .cycle := by
      rcases resumed.holding with same | ⟨_, hold⟩
      · exact same.symm.trans cycle'
      · rw [hold] at cycle'
        contradiction
    exact
      { inStep := resumed.inStep.relabelled n.runState .hold n.cycleStop n'.cycleStop
        holding := Or.inr ⟨cycle, rfl⟩
        driven := resumed.driven }
  · exact resumed

theorem cycleStart (resumed : Resumed n n') : Resumed n (n'.cycleStart rig.watched).2 := by
  rw [Machine.cycleStart]
  split
  · next queued =>
    rcases resumed.holding with same | ⟨_, hold⟩
    · exact absurd (same.symm.trans queued) resumed.driven.unqueued
    · rw [hold] at queued
      contradiction
  · next hold =>
    rcases resumed.holding with same | ⟨cycle, _⟩
    · exact absurd (same.symm.trans hold) resumed.driven.unheld
    · have ticking : n.ticking = true := by
        rcases resumed.driven with ⟨_, ticking⟩ | state | state
        · exact ticking
        · rw [cycle] at state
          contradiction
        · rw [cycle] at state
          contradiction
      refine { inStep := ?_, holding := Or.inl cycle.symm, driven := resumed.driven }
      cases resumed.inStep with
      | onto _ _ echoes => exact .onto _ _ (echoes.started ticking)
  · exact resumed

theorem goesOn (faultless : rig.Faultless) (resumed : Resumed n n') {op : Operation}
    (goes : op.goesOn = true) :
    Matched (n.proceed rig.watched (Machine.tick rig.watched) op)
      (n'.proceed rig.watched (resumingTick rig.watched) op) := by
  cases op
  case tick =>
    have ticks : n'.ticking = n.ticking := resumed.inStep.echoes.ticking
    apply Matched.went
    rw [ticks]
    split
    · next ticking => exact resumed.tick faultless ticking
    · exact resumed
  case prepareSegments => exact resumed.prepareSegments rig.watched
  case pushBlock b => exact .went (resumed.pushBlock b)
  case pulseReset => exact .went (resumed.pulseReset faultless)
  all_goals contradiction

theorem holds (rig : Rig H) (resumed : Resumed n n') {op : Operation} (holds : op.holds = true) :
    ∃ m', n'.proceed rig.watched (resumingTick rig.watched) op = .ok m' ∧ Resumed n m' := by
  cases op
  case feedHold => exact ⟨_, rfl, resumed.feedHold⟩
  case cycleStart => exact ⟨_, rfl, resumed.cycleStart⟩
  all_goals contradiction

theorem proceedAll (faultless : rig.Faultless) {script : List Operation}
    (fits : ∀ op ∈ script, op.goesOn = true ∨ op.holds = true) (resumed : Resumed n n') :
    Matched
      (n.proceedAll rig.watched (Machine.tick rig.watched) (script.filter Operation.goesOn))
      (n'.proceedAll rig.watched (resumingTick rig.watched) script) := by
  induction script generalizing n n' with
  | nil => exact .went resumed
  | cons op script ih =>
      have later := fun op member => fits op (List.mem_cons_of_mem _ member)
      rw [Machine.proceedAll]
      by_cases goes : op.goesOn = true
      · rw [List.filter_cons_of_pos goes, Machine.proceedAll]
        have matched := resumed.goesOn faultless goes
        revert matched
        generalize n.proceed rig.watched (Machine.tick rig.watched) op = r
        generalize n'.proceed rig.watched (resumingTick rig.watched) op = r'
        intro matched
        cases matched with
        | faulted fault => exact .faulted fault
        | went resumed' => exact ih later resumed'
      · rw [List.filter_cons_of_neg goes]
        have holds := (fits op (List.mem_cons_self ..)).resolve_left goes
        obtain ⟨m', proceeded, resumed'⟩ := resumed.holds rig holds
        rw [proceeded]
        exact ih later resumed'

end Resumed

/-- What two machines share of which one has been held now and then. -/
structure Undisturbed (n n' : Machine (Watched H) capacity) : Prop where
  planner : n'.planner = n.planner
  pipeline : n'.pipeline = n.pipeline
  runtime : n'.runtime = n.runtime
  position : n'.position = n.position
  images : n'.journal.images = n.journal.images
  calls : n'.journal.unticked = n.journal.unticked
  ticking : n'.ticking = n.ticking
  runState : n'.runState = n.runState ∨ n.runState = .cycle ∧ n'.runState = .hold

theorem Resumed.undisturbed {n n' : Machine (Watched H) capacity} (resumed : Resumed n n') :
    Undisturbed n n' := by
  have calls := resumed.inStep.echoes.unticked
  constructor
  case planner => exact resumed.inStep.planner
  case pipeline => exact resumed.inStep.pipeline
  case runtime => exact resumed.inStep.runtime
  case position => exact resumed.inStep.position
  case images => rw [← Journal.images_unticked, calls, Journal.images_unticked]
  case calls => exact calls
  case ticking => exact resumed.inStep.echoes.ticking
  case runState => exact resumed.holding

/-- In a cycle, holds may be asked for and taken back anywhere, and each that takes effect is resumed
at once: the machine comes to where it would have come without holds. -/
theorem holds_leave_no_trace {rig : Rig H} (faultless : rig.Faultless)
    {m : Machine (Watched H) capacity} (cycle : m.runState = .cycle) (ticking : m.ticking = true)
    {script : List Operation} (fits : ∀ op ∈ script, op.goesOn = true ∨ op.holds = true) :
    (∀ n, m.proceedAll rig.watched (Machine.tick rig.watched) (script.filter Operation.goesOn) =
        .ok n →
      ∃ n', m.proceedAll rig.watched (resumingTick rig.watched) script = .ok n' ∧
        Undisturbed n n') ∧
      ∀ fault, m.proceedAll rig.watched (Machine.tick rig.watched)
          (script.filter Operation.goesOn) = .error fault →
        m.proceedAll rig.watched (resumingTick rig.watched) script = .error fault := by
  have alone : InStep m m := .onto m.runState m.cycleStop ⟨rfl, rfl⟩
  have beside : Resumed m m := ⟨alone, Or.inl rfl, Or.inl ⟨cycle, ticking⟩⟩
  have matched := beside.proceedAll faultless fits
  constructor
  · intro n ended
    rw [ended] at matched
    generalize m.proceedAll rig.watched (resumingTick rig.watched) script = r' at matched ⊢
    cases matched with
    | went resumed => exact ⟨_, rfl, resumed.undisturbed⟩
  · intro fault ended
    rw [ended] at matched
    generalize m.proceedAll rig.watched (resumingTick rig.watched) script = r' at matched ⊢
    cases matched with
    | faulted fault => rfl

def heldScript : List Operation :=
  [.prepareSegments, .tick, .feedHold, .tick, .pulseReset, .tick, .feedHold, .cycleStart, .tick,
    .feedHold, .tick]

def heldStart : Machine (Watched Unit) 4 :=
  ((fresh { hardware := () } { blocks := [.sample] }).queue.cycleStart sampleRig.watched).2

def showsAt (ended : Except ClampFault (Machine (Watched H) capacity))
    (shown : Machine (Watched H) capacity → Bool) : Bool :=
  match ended with
  | .error _ => false
  | .ok n => shown n

theorem ended_of_showsAt {ended : Except ClampFault (Machine (Watched H) capacity)}
    {shown : Machine (Watched H) capacity → Bool} (holds : showsAt ended shown = true) :
    ∃ n, ended = .ok n ∧ shown n = true := by
  cases ended with
  | error fault => exact absurd holds Bool.false_ne_true
  | ok n => exact ⟨n, rfl, holds⟩

theorem undisturbed_by_three_holds :
    ∃ n n' : Machine (Watched Unit) 4,
      heldStart.proceedAll sampleRig.watched (Machine.tick sampleRig.watched)
        (heldScript.filter Operation.goesOn) = .ok n ∧
      heldStart.proceedAll sampleRig.watched (resumingTick sampleRig.watched) heldScript = .ok n' ∧
      n.position = ⟨3, -1, 0⟩ ∧ n'.journal.length = n.journal.length + 5 ∧ Undisturbed n n' := by
  have evaluated :
      showsAt (heldStart.proceedAll sampleRig.watched (Machine.tick sampleRig.watched)
        (heldScript.filter Operation.goesOn)) (fun n =>
          showsAt (heldStart.proceedAll sampleRig.watched (resumingTick sampleRig.watched)
            heldScript) fun n' =>
              n.position == ⟨3, -1, 0⟩ && n'.journal.length == n.journal.length + 5) = true := by
    decide +kernel
  obtain ⟨n, ended, evaluated'⟩ := ended_of_showsAt evaluated
  obtain ⟨n', ended', shown⟩ := ended_of_showsAt evaluated'
  obtain ⟨position, calls⟩ := Bool.and_eq_true_iff.mp shown
  have faultless : sampleRig.Faultless := Rig.faultless_bench _ _
  have fits : ∀ op ∈ heldScript, op.goesOn = true ∨ op.holds = true := by decide
  have cycle : heldStart.runState = .cycle := rfl
  have ticking : heldStart.ticking = true := rfl
  obtain ⟨m', held, undisturbed⟩ := (holds_leave_no_trace faultless cycle ticking fits).1 n ended
  obtain rfl := Except.ok.inj (ended'.symm.trans held)
  exact ⟨n, n', ended, ended', eq_of_beq position, eq_of_beq calls, undisturbed⟩

end StepPulse
