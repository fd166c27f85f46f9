import StepPulse.Proofs.Ramp.Staircase

/-!
A ramp that is turned down before it has reached its nominal rate. Its countdown is mirrored at the
turn, and from then on the descent stands, update by update, where the ascent stood: at the same
rate, with as many updates behind the last change as the ascent had before the next one.
-/

namespace StepPulse

namespace Staircase

variable {nominal delta period : Nat} {s a b : Staircase} {n i j : Nat}

section Updates

variable (nominal delta period) in
def after (s : Staircase) (n : Nat) : Staircase :=
  s.run nominal delta period (List.replicate n .update)

theorem after_succ (s : Staircase) (n : Nat) :
    s.after nominal delta period (n + 1) =
      (s.after nominal delta period n).update nominal delta period := by
  rw [after, run, List.replicate_succ', List.foldl_append]
  rfl

theorem accel_of_update (accel : (s.update nominal delta period).phase = .accel) :
    s.phase = .accel := by
  have updates := updates nominal delta period s
  generalize s.update nominal delta period = s' at updates accel
  cases updates with
  | cruises => exact accel
  | waits => exact accel
  | climbs accel => exact accel
  | arrives => contradiction
  | falls => exact accel
  | halves => exact accel

theorem accel_of_after {n : Nat} (le : i ≤ n)
    (accel : (s.after nominal delta period n).phase = .accel) :
    (s.after nominal delta period i).phase = .accel := by
  induction le with
  | refl => exact accel
  | step _ ih =>
      rw [after_succ] at accel
      exact ih (accel_of_update accel)

theorem after_rising (begun : s.phase = .accel) (n : Nat) :
    (s.after nominal delta period n).phase = .accel ∨
      (s.after nominal delta period n).phase = .cruise ∧
        (s.after nominal delta period n).rate = nominal := by
  induction n with
  | zero => exact Or.inl begun
  | succ n ih =>
      rw [after_succ]
      have updates := updates nominal delta period (s.after nominal delta period n)
      generalize s.after nominal delta period n = t at updates ih
      generalize t.update nominal delta period = t' at updates
      cases updates with
      | cruises => exact ih
      | waits => exact ih
      | climbs accel => exact Or.inl accel
      | arrives => exact Or.inr ⟨rfl, rfl⟩
      | falls decel => simp [decel] at ih
      | halves decel => simp [decel] at ih

end Updates

structure Climbing (period : Nat) (s : Staircase) : Prop where
  accel : s.phase = .accel
  counting : 0 < s.count
  count_le : s.count ≤ period
  moving : 0 < s.rate

namespace Climbing

theorem update_cases (accel : s.phase = .accel)
    (goesOn : (s.update nominal delta period).phase = .accel) :
    1 < s.count ∧ s.update nominal delta period = { s with count := s.count - 1 } ∨
      s.count ≤ 1 ∧
        s.update nominal delta period = { s with count := period, rate := s.rate + delta } := by
  have updates := updates nominal delta period s
  generalize s.update nominal delta period = s' at updates goesOn
  cases updates with
  | cruises cruise => simp [accel] at cruise
  | waits _ waiting => exact Or.inl ⟨waiting, rfl⟩
  | climbs _ due => exact Or.inr ⟨due, rfl⟩
  | arrives => contradiction
  | falls decel => simp [accel] at decel
  | halves decel => simp [accel] at decel

theorem update (running : 0 < period) (climbing : s.Climbing period)
    (goesOn : (s.update nominal delta period).phase = .accel) :
    (s.update nominal delta period).Climbing period := by
  have count_le := climbing.count_le
  have moving := climbing.moving
  rcases update_cases climbing.accel goesOn with ⟨waiting, same⟩ | ⟨_, same⟩
  · rw [same]
    refine ⟨climbing.accel, ?_, ?_, moving⟩
    · show 0 < s.count - 1
      omega
    · show s.count - 1 ≤ period
      omega
  · rw [same]
    exact ⟨climbing.accel, running, Nat.le_refl _, Nat.add_pos_left moving delta⟩

theorem of_changed (running : 0 < period) (rising : 0 < delta)
    (goesOn : (s.update nominal delta period).phase = .accel)
    (changed : (s.update nominal delta period).rate ≠ s.rate) :
    (s.update nominal delta period).Climbing period := by
  have accel := accel_of_update goesOn
  rcases update_cases accel goesOn with ⟨_, same⟩ | ⟨_, same⟩
  · rw [same] at changed
    exact absurd rfl changed
  · rw [same]
    exact ⟨accel, running, Nat.le_refl _, Nat.add_pos_right s.rate rising⟩

theorem after (running : 0 < period) (rising : 0 < delta)
    (goesOn : (s.after nominal delta period n).phase = .accel)
    (changed : ∃ i < n, (s.after nominal delta period (i + 1)).rate ≠
      (s.after nominal delta period i).rate) :
    (s.after nominal delta period n).Climbing period := by
  induction n with
  | zero => simp at changed
  | succ n ih =>
      obtain ⟨i, inside, change⟩ := changed
      have before := accel_of_after (Nat.le_succ n) goesOn
      rw [after_succ] at goesOn ⊢
      rcases Nat.lt_succ_iff_lt_or_eq.mp inside with earlier | rfl
      · exact (ih before ⟨i, earlier, change⟩).update running goesOn
      · rw [after_succ] at change
        exact of_changed running rising goesOn change

end Climbing

/-- A descent stands where an ascent stood. -/
structure Mirrors (period : Nat) (ascent descent : Staircase) : Prop where
  ascends : ascent.phase = .accel
  descends : descent.phase = .decel
  rate : descent.rate = ascent.rate
  count : ascent.count + descent.count = period + 1

namespace Mirrors

theorem back (climbing : a.Climbing period)
    (mirrors : Mirrors period (a.update nominal delta period) b) :
    Mirrors period a (b.update nominal delta period) := by
  have counting := climbing.counting
  have count_le := climbing.count_le
  have moving := climbing.moving
  have decelerating : b.phase ≠ .cruise := by
    rw [mirrors.descends]
    exact nofun
  have rate := mirrors.rate
  have count := mirrors.count
  rcases Climbing.update_cases climbing.accel mirrors.ascends with ⟨waiting, same⟩ | ⟨due, same⟩
  · -- The ascent waited, and so does the descent.
    rw [same] at rate count
    have count : a.count - 1 + b.count = period + 1 := count
    rw [update_of_waiting decelerating (by omega)]
    refine ⟨climbing.accel, mirrors.descends, rate, ?_⟩
    show a.count + (b.count - 1) = period + 1
    omega
  · -- The ascent took a step up, and the descent takes it down again.
    rw [same] at rate count
    have rate : b.rate = a.rate + delta := rate
    have count : period + b.count = period + 1 := count
    rw [update_of_due decelerating (by omega), turn_of_falling mirrors.descends (by omega)]
    refine ⟨climbing.accel, mirrors.descends, ?_, ?_⟩
    · show b.rate - delta = a.rate
      omega
    · show a.count + period = period + 1
      omega

theorem turned (rising : 0 < delta) (climbing : a.Climbing period)
    (goesOn : (a.update nominal delta period).phase = .accel)
    (steady : (a.update nominal delta period).rate = a.rate) :
    Mirrors period a ((a.update nominal delta period).beginDeceleration period) := by
  have count_le := climbing.count_le
  rcases Climbing.update_cases climbing.accel goesOn with ⟨waiting, same⟩ | ⟨_, same⟩
  · have turned : (a.update nominal delta period).beginDeceleration period =
        { a with phase := .decel, count := max (period - (a.count - 1)) 1 } := by
      rw [same, beginDeceleration, climbing.accel]
    rw [turned]
    refine ⟨climbing.accel, rfl, rfl, ?_⟩
    show a.count + max (period - (a.count - 1)) 1 = period + 1
    omega
  · rw [same] at steady
    have steady : a.rate + delta = a.rate := steady
    omega

end Mirrors

/-- The descent retraces the ascent as long as a change of rate lies before it. -/
theorem mirrors_after (running : 0 < period) (rising : 0 < delta)
    (goesOn : (s.after nominal delta period n).phase = .accel)
    (steady : (s.after nominal delta period n).rate =
      (s.after nominal delta period (n - 1)).rate) (split : n = i + j + 1)
    (changed : ∃ k < i, (s.after nominal delta period (k + 1)).rate ≠
      (s.after nominal delta period k).rate) :
    Mirrors period (s.after nominal delta period i)
      (((s.after nominal delta period n).beginDeceleration period).after nominal delta period
        j) := by
  -- Each further update of the descent takes back one more update of the ascent.
  induction j generalizing i with
  | zero =>
      obtain rfl : n = i + 1 := split
      have climbing := Climbing.after running rising (accel_of_after (Nat.le_succ i) goesOn) changed
      rw [after_succ] at goesOn
      rw [Nat.add_sub_cancel, after_succ] at steady
      rw [after_succ]
      exact Mirrors.turned rising climbing goesOn steady
  | succ j ih =>
      have climbing := Climbing.after running rising (accel_of_after (by omega) goesOn) changed
      obtain ⟨k, before, change⟩ := changed
      have mirrors := ih (by omega : n = i + 1 + j + 1) ⟨k, Nat.lt_succ_of_lt before, change⟩
      rw [after_succ] at mirrors
      rw [after_succ]
      exact mirrors.back climbing

end Staircase

namespace Ramp

def after (nominal delta period : UInt32) (r : Ramp) (n : Nat) : Ramp :=
  r.run nominal delta period (List.replicate n .update)

variable {nominal delta period : UInt32}

theorem staircase_after (r : Ramp) (n : Nat) :
    (r.after nominal delta period n).staircase =
      r.staircase.after nominal.toNat delta.toNat period.toNat n := staircase_run r _

theorem rate_after_ne {r : Ramp} {m n : Nat}
    (changed : (r.after nominal delta period m).rate ≠ (r.after nominal delta period n).rate) :
    (r.staircase.after nominal.toNat delta.toNat period.toNat m).rate ≠
      (r.staircase.after nominal.toNat delta.toNat period.toNat n).rate := by
  rw [← staircase_after, ← staircase_after]
  exact fun same => changed (UInt32.toNat_inj.mp same)

theorem accel_of_below {initial : UInt32} {n : Nat}
    (below : ((start initial period).after nominal delta period n).rate < nominal) :
    ((start initial period).staircase.after nominal.toNat delta.toNat period.toNat n).phase =
      .accel := by
  have below : ((start initial period).after nominal delta period n).staircase.rate <
      nominal.toNat := UInt32.lt_iff_toNat_lt.mp below
  rw [staircase_after] at below
  rcases Staircase.after_rising (s := (start initial period).staircase) rfl n with
    accel | ⟨_, top⟩
  · exact accel
  · rw [top] at below
    exact absurd below (Nat.lt_irrefl _)

/-- A ramp below its nominal rate that is turned down after an update without a change of rate runs
backwards through the rates of its ascent, down to the first step that it took. -/
theorem descent_mirrors_ascent {initial nominal delta period : UInt32} (running : 0 < period)
    (rising : 0 < delta) {n j : Nat}
    (below : ((start initial period).after nominal delta period n).rate < nominal)
    (steady : ((start initial period).after nominal delta period n).rate =
      ((start initial period).after nominal delta period (n - 1)).rate)
    (changed : ∃ k < n - 1 - j, ((start initial period).after nominal delta period (k + 1)).rate ≠
      ((start initial period).after nominal delta period k).rate) :
    ((((start initial period).after nominal delta period n).beginDeceleration period).after
      nominal delta period j).rate =
      ((start initial period).after nominal delta period (n - 1 - j)).rate := by
  have steady : ((start initial period).after nominal delta period n).staircase.rate =
      ((start initial period).after nominal delta period (n - 1)).staircase.rate :=
    congrArg UInt32.toNat steady
  rw [staircase_after, staircase_after] at steady
  obtain ⟨k, before, change⟩ := changed
  have split : n = n - 1 - j + j + 1 := by omega
  have mirrors := Staircase.mirrors_after (UInt32.lt_iff_toNat_lt.mp running)
    (UInt32.lt_iff_toNat_lt.mp rising) (accel_of_below below) steady split
    ⟨k, before, rate_after_ne change⟩
  have rates := mirrors.rate
  rw [← staircase_after, ← staircase_after, ← staircase_beginDeceleration, ← staircase_after]
    at rates
  exact UInt32.toNat_inj.mp rates

theorem retraced_to_first_step :
    ((start 7 5).after 1000 100 5 14).rate = 307 ∧
      ((((start 7 5).after 1000 100 5 14).beginDeceleration 5).after 1000 100 5 9).rate =
        ((start 7 5).after 1000 100 5 4).rate ∧
      ((start 7 5).after 1000 100 5 4).rate = 107 :=
  ⟨by decide,
    descent_mirrors_ascent (by decide) (by decide) (by decide) (by decide)
      ⟨1, by decide, by decide⟩,
    by decide⟩

end Ramp

end StepPulse
