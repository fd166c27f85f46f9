import StepPulse.Proofs.Machine.Calls

namespace StepPulse

open Machine

variable {H : Type} {capacity : Nat} {rig : Rig H}

structure Gated (m : Machine (Watched H) capacity) : Prop where
  running : m.ticking = true → m.runState = .cycle
  settled : m.runState = .idle ∨ m.runState = .queued → m.runtime.load ≠ .nothing

namespace Gated

variable {m m' : Machine (Watched H) capacity}

theorem of_cycle (cycle : m.runState = .cycle) : Gated m :=
  { running := fun _ => cycle
    settled := by
      rw [cycle]
      exact nofun }

theorem of_alarm (silent : m.ticking = false) (alarm : m.runState = .alarm) : Gated m :=
  { running := by
      rw [silent]
      exact nofun
    settled := by
      rw [alarm]
      exact nofun }

theorem congr (gated : Gated m) (ticking : m'.ticking = m.ticking)
    (runState : m'.runState = m.runState) (load : m'.runtime.load = m.runtime.load) : Gated m' :=
  { running := by
      rw [ticking, runState]
      exact gated.running
    settled := by
      rw [runState, load]
      exact gated.settled }

protected theorem fresh (hardware : H) (q : BlockQueue capacity) :
    Gated (Machine.fresh { hardware := hardware } q) :=
  { running := nofun, settled := nofun }

theorem queue (gated : Gated m) (idle : m.runState = .idle) :
    Gated { m with runState := .queued } := by
  have settled := gated.settled (Or.inl idle)
  refine { running := fun ticking => ?_, settled := fun _ => settled }
  rw [gated.running ticking] at idle
  contradiction

theorem cycleStart (gated : Gated m) : Gated (m.cycleStart rig.watched).2 := by
  have starts := starts rig m
  generalize m.cycleStart rig.watched = r at starts
  cases starts with
  | woken _ wakes => exact of_cycle wakes.runState
  | resumed => exact of_cycle rfl
  | unheeded => exact gated

theorem tick (gated : Gated m) (ticking : m.ticking = true) : Gated (m.tick rig.watched) := by
  have cycle := gated.running ticking
  have still := still_applyStaged rig.watched m
  have runState := runState_applyStaged rig.watched m
  rcases tick_cases rig.watched m with
    ⟨_, same⟩ | ⟨cause, m₀, _, same⟩ | ⟨m₀, applied, executes⟩
  · rwa [same]
  · rw [same]
    exact of_alarm rfl rfl
  · rw [applied] at still runState
    have cycle₀ : (m₀.setBusy true).runState = .cycle := runState.trans cycle
    generalize m.tick rig.watched = m' at executes
    cases executes with
    | advances loads => exact of_cycle (loads.runState_advance.trans cycle₀)
    | holds hold =>
        rw [cycle₀] at hold
        contradiction
    | orphaned => exact of_alarm rfl rfl
    | runsDry due =>
        have stopped : (finishCycle rig.watched (m₀.setBusy true)).ticking = false := by
          obtain ⟨_, rests, _⟩ := (finishes rig (m₀.setBusy true)).rests
          exact rests.ticking
        have load := (still_finishCycle rig.watched (m₀.setBusy true)).load
        refine { running := ?_, settled := fun _ => ?_ }
        · rw [stopped]
          exact nofun
        · rw [load]
          exact due

end Gated

end StepPulse
