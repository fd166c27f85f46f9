import StepPulse.Proofs.Ramp.Staircase

namespace StepPulse

def RampPhase.rank : RampPhase → Nat
  | accel => 0
  | cruise => 1
  | decel => 2

theorem RampPhase.rank_inj {a b : RampPhase} (same : a.rank = b.rank) : a = b := by
  cases a <;> cases b <;> first | rfl | contradiction

theorem RampPhase.rank_le_decel (a : RampPhase) : a.rank ≤ decel.rank := by
  cases a <;> decide

namespace Staircase

variable {nominal delta period : Nat} {s s' s'' : Staircase} {requests : List RampRequest}

structure Bounded (nominal : Nat) (s : Staircase) : Prop where
  rate_le : s.rate ≤ nominal
  level : s.phase = .cruise → s.rate = nominal

structure Precedes (s s' : Staircase) : Prop where
  forward : s.phase.rank ≤ s'.phase.rank
  climbs : s'.phase ≠ .decel → s.rate ≤ s'.rate
  falls : s.phase = .decel → s'.rate ≤ s.rate

namespace Precedes

protected theorem refl (s : Staircase) : Precedes s s :=
  ⟨Nat.le_refl _, fun _ => Nat.le_refl _, fun _ => Nat.le_refl _⟩

theorem decel (later : Precedes s s') (decel : s.phase = .decel) : s'.phase = .decel := by
  apply RampPhase.rank_inj
  apply Nat.le_antisymm s'.phase.rank_le_decel
  rw [← decel]
  exact later.forward

protected theorem trans (first : Precedes s s') (second : Precedes s' s'') : Precedes s s'' :=
  { forward := Nat.le_trans first.forward second.forward
    climbs := fun rising =>
      Nat.le_trans (first.climbs fun decel => rising (second.decel decel)) (second.climbs rising)
    falls := fun decel => Nat.le_trans (second.falls (first.decel decel)) (first.falls decel) }

theorem phase_between (first : Precedes s s') (second : Precedes s' s'')
    (phase : s''.phase = s.phase) : s'.phase = s.phase := by
  have back := second.forward
  rw [phase] at back
  exact RampPhase.rank_inj (Nat.le_antisymm back first.forward)

theorem rate_between (first : Precedes s s') (second : Precedes s' s'')
    (phase : s''.phase = s.phase) (rate : s''.rate = s.rate) : s'.rate = s.rate := by
  have amid := phase_between first second phase
  by_cases decel : s.phase = .decel
  · have down := first.falls decel
    have further := second.falls (amid.trans decel)
    omega
  · have up := first.climbs fun turned => decel (amid.symm.trans turned)
    have further := second.climbs fun turned => decel (phase.symm.trans turned)
    omega

end Precedes

namespace Bounded

theorem update (bounded : s.Bounded nominal) (delta period : Nat) :
    (s.update nominal delta period).Bounded nominal ∧
      Precedes s (s.update nominal delta period) := by
  have updates := updates nominal delta period s
  have rate_le := bounded.rate_le
  generalize s.update nominal delta period = s' at updates
  cases updates with
  | cruises => exact ⟨bounded, Precedes.refl s⟩
  | waits moving =>
      exact ⟨⟨rate_le, bounded.level⟩, Nat.le_refl _, fun _ => Nat.le_refl _,
        fun _ => Nat.le_refl _⟩
  | climbs accel due below =>
      refine ⟨⟨Nat.le_of_lt below, ?_⟩, Nat.le_refl _, fun _ => Nat.le_add_right _ _, ?_⟩
      · rw [accel]
        exact nofun
      · rw [accel]
        exact nofun
  | arrives accel due reached =>
      refine ⟨⟨Nat.le_refl _, fun _ => rfl⟩, ?_, fun _ => rate_le, ?_⟩
      · rw [accel]
        exact Nat.zero_le _
      · rw [accel]
        exact nofun
  | falls decel due above =>
      refine ⟨⟨Nat.le_trans (Nat.sub_le _ _) rate_le, ?_⟩, Nat.le_refl _, ?_,
        fun _ => Nat.sub_le _ _⟩
      · rw [decel]
        exact nofun
      · exact fun rising => absurd decel rising
  | halves decel due low =>
      refine ⟨⟨Nat.le_trans (Nat.div_le_self _ _) rate_le, ?_⟩, Nat.le_refl _, ?_,
        fun _ => Nat.div_le_self _ _⟩
      · rw [decel]
        exact nofun
      · exact fun rising => absurd decel rising

end Bounded

theorem phase_beginDeceleration (s : Staircase) (period : Nat) :
    (s.beginDeceleration period).phase = .decel := by
  rw [beginDeceleration]
  split
  · rfl
  · rfl
  · next decel => exact decel

theorem rate_beginDeceleration (s : Staircase) (period : Nat) :
    (s.beginDeceleration period).rate = s.rate := by
  rw [beginDeceleration]
  split <;> rfl

namespace Bounded

theorem perform (bounded : s.Bounded nominal) (delta period : Nat) (request : RampRequest) :
    (s.perform nominal delta period request).Bounded nominal ∧
      Precedes s (s.perform nominal delta period request) := by
  cases request with
  | update => exact bounded.update delta period
  | beginDeceleration =>
      have turned : (s.perform nominal delta period .beginDeceleration).phase = .decel :=
        phase_beginDeceleration s period
      have same : (s.perform nominal delta period .beginDeceleration).rate = s.rate :=
        rate_beginDeceleration s period
      refine ⟨⟨?_, ?_⟩, ?_, ?_, ?_⟩
      · rw [same]
        exact bounded.rate_le
      · rw [turned]
        exact nofun
      · rw [turned]
        exact s.phase.rank_le_decel
      · exact fun rising => absurd turned rising
      · exact fun _ => Nat.le_of_eq same

theorem run (bounded : s.Bounded nominal) (delta period : Nat) (requests : List RampRequest) :
    (s.run nominal delta period requests).Bounded nominal ∧
      Precedes s (s.run nominal delta period requests) := by
  induction requests generalizing s with
  | nil => exact ⟨bounded, Precedes.refl s⟩
  | cons request requests ih =>
      obtain ⟨next, first⟩ := bounded.perform delta period request
      obtain ⟨last, later⟩ := ih next
      exact ⟨last, first.trans later⟩

end Bounded

theorem rate_turn_congr (phase : s'.phase = s.phase) (rate : s'.rate = s.rate) :
    (s'.turn nominal delta period).rate = (s.turn nominal delta period).rate := by
  simp only [turn, phase, rate]
  split
  · split <;> rfl
  · exact rate
  · rfl

theorem due_of_changed (changed : (s.update nominal delta period).rate ≠ s.rate) :
    s.phase ≠ .cruise ∧ s.count ≤ 1 := by
  have updates := updates nominal delta period s
  generalize s.update nominal delta period = s' at updates changed
  cases updates with
  | cruises => exact absurd rfl changed
  | waits => exact absurd rfl changed
  | climbs accel due => exact ⟨by rw [accel]; exact nofun, due⟩
  | arrives accel due => exact ⟨by rw [accel]; exact nofun, due⟩
  | falls decel due => exact ⟨by rw [decel]; exact nofun, due⟩
  | halves decel due => exact ⟨by rw [decel]; exact nofun, due⟩

theorem count_of_changed (changed : (s.update nominal delta period).rate ≠ s.rate) :
    (s.update nominal delta period).count = period := by
  have updates := updates nominal delta period s
  generalize s.update nominal delta period = s' at updates changed
  cases updates with
  | cruises => exact absurd rfl changed
  | waits => exact absurd rfl changed
  | climbs => rfl
  | arrives => rfl
  | falls => rfl
  | halves => rfl

theorem updates_until_change (bounded : s.Bounded nominal) (counting : 0 < s.count)
    (phase : (s.run nominal delta period requests).phase = s.phase)
    (rate : (s.run nominal delta period requests).rate = s.rate)
    (changed : ((s.run nominal delta period requests).update nominal delta period).rate ≠
      (s.run nominal delta period requests).rate) :
    requests.count .update + 1 = s.count := by
  induction requests generalizing s with
  | nil =>
      have due : s.count ≤ 1 := (due_of_changed changed).2
      rw [List.count_nil]
      omega
  | cons request requests ih =>
      obtain ⟨next, first⟩ := bounded.perform delta period request
      have later := (next.run delta period requests).2
      have moving : s.phase ≠ .cruise := phase ▸ (due_of_changed changed).1
      cases request with
      | beginDeceleration =>
          -- A turn to deceleration within one phase is one within deceleration, and does nothing.
          have decel : s.phase = .decel :=
            (first.phase_between later phase).symm.trans (phase_beginDeceleration s period)
          have same : s.perform nominal delta period .beginDeceleration = s := by
            rw [perform, beginDeceleration, decel]
          have onwards : s.run nominal delta period (.beginDeceleration :: requests) =
              s.run nominal delta period requests :=
            congrArg (fun t => run nominal delta period t requests) same
          rw [onwards] at phase rate changed
          rw [List.count_cons_of_ne (by decide)]
          exact ih bounded counting phase rate changed
      | update =>
          rw [List.count_cons_self]
          by_cases waiting : 1 < s.count
          · have waits : s.perform nominal delta period .update = { s with count := s.count - 1 } :=
              update_of_waiting moving waiting
            have onwards : s.run nominal delta period (.update :: requests) =
                ({ s with count := s.count - 1 } : Staircase).run nominal delta period requests :=
              congrArg (fun t => run nominal delta period t requests) waits
            rw [onwards] at phase rate changed
            have sooner : Bounded nominal { s with count := s.count - 1 } :=
              ⟨bounded.rate_le, bounded.level⟩
            have fewer : requests.count .update + 1 = s.count - 1 :=
              ih sooner (Nat.sub_pos_of_lt waiting) phase rate changed
            omega
          · -- The countdown has run out, so the rate changes here as it does in the end.
            have due := due_of_changed changed
            have turns : s.update nominal delta period = s.turn nominal delta period :=
              update_of_due moving (Nat.not_lt.mp waiting)
            have stays : (s.update nominal delta period).rate = s.rate :=
              first.rate_between later phase rate
            rw [update_of_due due.1 due.2, rate_turn_congr phase rate, ← turns, stays, rate]
              at changed
            exact absurd rfl changed

end Staircase

namespace Ramp

variable {nominal delta period : UInt32}

/-- A ramp at some moment of its run, and from there to any later one. -/
structure Disciplined (nominal delta period floor : UInt32) (r : Ramp)
    (later : List RampRequest) : Prop where
  rate_le : r.rate ≤ nominal
  level : r.phase = .cruise → r.rate = nominal
  forward : r.phase.rank ≤ (r.run nominal delta period later).phase.rank
  climbs : (r.run nominal delta period later).phase ≠ .decel →
    r.rate ≤ (r.run nominal delta period later).rate
  falls : r.phase = .decel → (r.run nominal delta period later).rate ≤ r.rate
  spaced : ∀ {changed last : Ramp}, changed = r.update nominal delta period →
    last = changed.run nominal delta period later → changed.rate ≠ r.rate →
    last.phase = r.phase → last.rate = changed.rate →
    (last.update nominal delta period).rate ≠ last.rate →
    later.count .update + 1 = period.toNat
  floor_le : floor ≤ r.ratePerTick floor
  ratePerTick_le : r.ratePerTick floor ≤ max floor nominal
  unwrapped : (r.run nominal delta period later).staircase =
    r.staircase.run nominal.toNat delta.toNat period.toNat later

theorem rate_ne_of_staircase {r r' : Ramp} (changed : r'.rate ≠ r.rate) :
    r'.staircase.rate ≠ r.staircase.rate := fun same => changed (UInt32.toNat_inj.mp same)

theorem disciplined_of_bounded {r : Ramp} (running : 0 < period)
    (bounded : r.staircase.Bounded nominal.toNat) (delta floor : UInt32)
    (later : List RampRequest) : Disciplined nominal delta period floor r later := by
  have course := (bounded.run delta.toNat period.toNat later).2
  rw [← staircase_run] at course
  have rate_le : r.rate.toNat ≤ nominal.toNat := bounded.rate_le
  have held := Saturating.toNat_max r.rate floor
  refine
    { rate_le := UInt32.le_iff_toNat_le.mpr rate_le
      level := fun cruise => UInt32.toNat_inj.mp (bounded.level cruise)
      forward := course.forward
      climbs := fun rising => UInt32.le_iff_toNat_le.mpr (course.climbs rising)
      falls := fun decel => UInt32.le_iff_toNat_le.mpr (course.falls decel)
      spaced := ?_, floor_le := ?_, ratePerTick_le := ?_, unwrapped := staircase_run r later }
  · rintro changed last rfl rfl begins phase rate ends
    obtain ⟨next, first⟩ := bounded.update delta.toNat period.toNat
    have onwards := (next.run delta.toNat period.toNat later).2
    have begun := rate_ne_of_staircase begins
    rw [staircase_update] at begun
    have anew := Staircase.count_of_changed begun
    rw [← staircase_update] at next first onwards anew
    rw [← staircase_run] at onwards
    have same := first.phase_between onwards phase
    have changes := rate_ne_of_staircase ends
    rw [staircase_update, staircase_run] at changes
    rw [← anew]
    apply Staircase.updates_until_change next
    · rw [anew]
      exact UInt32.lt_iff_toNat_lt.mp running
    · rw [← staircase_run, same]
      exact phase
    · rw [← staircase_run]
      exact congrArg UInt32.toNat rate
    · exact changes
  · rw [UInt32.le_iff_toNat_le, ratePerTick, held]
    omega
  · rw [UInt32.le_iff_toNat_le, ratePerTick, held, Saturating.toNat_max]
    omega

end Ramp

/-- Whatever follows the start of a ramp, and in whatever order. -/
theorem ramp_rises_then_falls {initial nominal period : UInt32} (ordered : initial ≤ nominal)
    (running : 0 < period) (delta floor : UInt32) (earlier later : List RampRequest) :
    Ramp.Disciplined nominal delta period floor
      ((Ramp.start initial period).run nominal delta period earlier) later := by
  have begun : (Staircase.start initial.toNat period.toNat).Bounded nominal.toNat :=
    ⟨UInt32.le_iff_toNat_le.mp ordered, nofun⟩
  apply Ramp.disciplined_of_bounded running
  rw [Ramp.staircase_run, Ramp.staircase_start]
  exact (begun.run delta.toNat period.toNat earlier).1

theorem rises_to_last_word :
    (4294967290 : UInt32) ≤ 4294967295 ∧ (0 : UInt32) < 3 ∧
      (Ramp.start 4294967290 3).run 4294967295 4294967295 3 [.update] =
        { phase := .cruise, count := 3, rate := 4294967295 } ∧
      Ramp.Disciplined 4294967295 4294967295 3 800
        ((Ramp.start 4294967290 3).run 4294967295 4294967295 3 [.update])
        [.update, .beginDeceleration, .update] :=
  ⟨by decide, by decide, by decide,
    ramp_rises_then_falls (by decide) (by decide) 4294967295 800 [.update] _⟩

end StepPulse
