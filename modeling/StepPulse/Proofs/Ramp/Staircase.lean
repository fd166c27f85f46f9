import StepPulse.Ramp

/-! A ramp in natural numbers: no word of a ramp ever wraps. -/

namespace StepPulse

inductive RampRequest where
  | update
  | beginDeceleration
  deriving DecidableEq, Repr

namespace Ramp

variable (nominal delta period : UInt32)

def perform (r : Ramp) : RampRequest → Ramp
  | .update => r.update nominal delta period
  | .beginDeceleration => r.beginDeceleration period

def run (r : Ramp) (requests : List RampRequest) : Ramp :=
  requests.foldl (perform nominal delta period) r

end Ramp

structure Staircase where
  phase : RampPhase
  count : Nat
  rate : Nat
  deriving DecidableEq, Repr

namespace Staircase

def start (initial period : Nat) : Staircase :=
  { phase := .accel, count := period / 2, rate := initial }

def beginDeceleration (s : Staircase) (period : Nat) : Staircase :=
  match s.phase with
  | .accel => { s with phase := .decel, count := max (period - s.count) 1 }
  | .cruise => { s with phase := .decel, count := period / 2 }
  | .decel => s

section Update

variable (nominal delta period : Nat)

def turn (s : Staircase) : Staircase :=
  match s.phase with
  | .accel =>
    if nominal ≤ s.rate + delta then { phase := .cruise, count := period, rate := nominal }
    else { s with count := period, rate := s.rate + delta }
  | .cruise => s
  | .decel =>
    { s with count := period, rate := if delta < s.rate then s.rate - delta else s.rate / 2 }

def update (s : Staircase) : Staircase :=
  if s.phase = .cruise then s
  else if 1 < s.count then { s with count := s.count - 1 }
  else s.turn nominal delta period

def perform (s : Staircase) : RampRequest → Staircase
  | .update => s.update nominal delta period
  | .beginDeceleration => s.beginDeceleration period

def run (s : Staircase) (requests : List RampRequest) : Staircase :=
  requests.foldl (perform nominal delta period) s

variable {nominal delta period} {s : Staircase}

theorem update_of_cruise (cruise : s.phase = .cruise) : s.update nominal delta period = s :=
  if_pos cruise

theorem update_of_waiting (moving : s.phase ≠ .cruise) (waiting : 1 < s.count) :
    s.update nominal delta period = { s with count := s.count - 1 } := by
  rw [update, if_neg moving, if_pos waiting]

theorem update_of_due (moving : s.phase ≠ .cruise) (due : s.count ≤ 1) :
    s.update nominal delta period = s.turn nominal delta period := by
  rw [update, if_neg moving, if_neg (Nat.not_lt.mpr due)]

theorem turn_of_accel (accel : s.phase = .accel) (below : s.rate + delta < nominal) :
    s.turn nominal delta period = { s with count := period, rate := s.rate + delta } := by
  rw [turn, accel]
  exact if_neg (Nat.not_le.mpr below)

theorem turn_of_arriving (accel : s.phase = .accel) (reached : nominal ≤ s.rate + delta) :
    s.turn nominal delta period = { phase := .cruise, count := period, rate := nominal } := by
  rw [turn, accel]
  exact if_pos reached

theorem turn_of_falling (decel : s.phase = .decel) (above : delta < s.rate) :
    s.turn nominal delta period = { s with count := period, rate := s.rate - delta } := by
  rw [turn, decel]
  simp only [if_pos above]

theorem turn_of_halving (decel : s.phase = .decel) (low : s.rate ≤ delta) :
    s.turn nominal delta period = { s with count := period, rate := s.rate / 2 } := by
  rw [turn, decel]
  simp only [if_neg (Nat.not_lt.mpr low)]

variable (nominal delta period s) in
inductive Updates : Staircase → Prop
  | cruises : s.phase = .cruise → Updates s
  | waits : s.phase ≠ .cruise → 1 < s.count → Updates { s with count := s.count - 1 }
  | climbs :
      s.phase = .accel → s.count ≤ 1 → s.rate + delta < nominal →
      Updates { s with count := period, rate := s.rate + delta }
  | arrives :
      s.phase = .accel → s.count ≤ 1 → nominal ≤ s.rate + delta →
      Updates { phase := .cruise, count := period, rate := nominal }
  | falls :
      s.phase = .decel → s.count ≤ 1 → delta < s.rate →
      Updates { s with count := period, rate := s.rate - delta }
  | halves :
      s.phase = .decel → s.count ≤ 1 → s.rate ≤ delta →
      Updates { s with count := period, rate := s.rate / 2 }

variable (nominal delta period s) in
theorem updates : Updates nominal delta period s (s.update nominal delta period) := by
  by_cases cruise : s.phase = .cruise
  · rw [update_of_cruise cruise]
    exact .cruises cruise
  by_cases waiting : 1 < s.count
  · rw [update_of_waiting cruise waiting]
    exact .waits cruise waiting
  have due := Nat.not_lt.mp waiting
  rw [update_of_due cruise due]
  cases phase : s.phase with
  | accel =>
      by_cases reached : nominal ≤ s.rate + delta
      · rw [turn_of_arriving phase reached]
        exact .arrives phase due reached
      · rw [turn_of_accel phase (Nat.not_le.mp reached)]
        exact .climbs phase due (Nat.not_le.mp reached)
  | cruise => exact absurd phase cruise
  | decel =>
      by_cases above : delta < s.rate
      · rw [turn_of_falling phase above]
        exact .falls phase due above
      · rw [turn_of_halving phase (Nat.not_lt.mp above)]
        exact .halves phase due (Nat.not_lt.mp above)

end Update

end Staircase

namespace Ramp

variable {nominal delta period : UInt32}

def staircase (r : Ramp) : Staircase :=
  { phase := r.phase, count := r.count.toNat, rate := r.rate.toNat }

theorem staircase_start (initial period : UInt32) :
    (start initial period).staircase = .start initial.toNat period.toNat := by
  simp [start, staircase, Staircase.start]

theorem staircase_beginDeceleration (r : Ramp) :
    (r.beginDeceleration period).staircase = r.staircase.beginDeceleration period.toNat := by
  obtain ⟨phase, count, rate⟩ := r
  cases phase with
  | accel =>
      simp [beginDeceleration, staircase, Staircase.beginDeceleration, Saturating.toNat_max,
        Saturating.toNat_sub]
  | cruise => simp [beginDeceleration, staircase, Staircase.beginDeceleration]
  | decel => rfl

/-- The sum is cut off at the end of the range only where the nominal rate is reached. -/
theorem staircase_accelerate (count rate : UInt32) :
    (accelerate { phase := .accel, count := period, rate := rate } nominal delta).staircase =
      (staircase { phase := .accel, count := count, rate := rate }).turn
        nominal.toNat delta.toNat period.toNat := by
  have sum := Saturating.toNat_add rate delta
  have bound := nominal.toNat_lt
  have reaches : nominal ≤ Saturating.add rate delta ↔
      nominal.toNat ≤ rate.toNat + delta.toNat := by
    rw [UInt32.le_iff_toNat_le, sum]
    omega
  by_cases reached : nominal.toNat ≤ rate.toNat + delta.toNat
  · rw [Staircase.turn_of_arriving rfl reached]
    simp only [accelerate, if_pos (reaches.mpr reached), staircase]
  · have uncut : (Saturating.add rate delta).toNat = rate.toNat + delta.toNat := by omega
    rw [Staircase.turn_of_accel rfl (Nat.not_le.mp reached)]
    simp only [accelerate, if_neg fun above => reached (reaches.mp above), staircase, uncut]

theorem staircase_decelerate (count rate : UInt32) :
    (decelerate { phase := .decel, count := period, rate := rate } delta).staircase =
      (staircase { phase := .decel, count := count, rate := rate }).turn
        nominal.toNat delta.toNat period.toNat := by
  by_cases above : delta < rate
  · have difference := UInt32.toNat_sub_of_le rate delta (UInt32.le_of_lt above)
    rw [Staircase.turn_of_falling rfl (UInt32.lt_iff_toNat_lt.mp above)]
    simp only [decelerate, if_pos above, staircase, difference]
  · have low : rate.toNat ≤ delta.toNat :=
      Nat.not_lt.mp fun below => above (UInt32.lt_iff_toNat_lt.mpr below)
    have half : (rate >>> 1).toNat = rate.toNat / 2 := by
      rw [UInt32.toNat_shiftRight]
      exact Nat.shiftRight_eq_div_pow _ 1
    rw [Staircase.turn_of_halving rfl low]
    simp only [decelerate, if_neg above, staircase, half]

theorem staircase_update (r : Ramp) :
    (r.update nominal delta period).staircase =
      r.staircase.update nominal.toNat delta.toNat period.toNat := by
  have left : (Saturating.sub r.count 1).toNat = r.count.toNat - 1 := Saturating.toNat_sub r.count 1
  have waits : 0 < Saturating.sub r.count 1 ↔ 1 < r.count.toNat := by
    rw [UInt32.lt_iff_toNat_lt, left, UInt32.toNat_zero]
    omega
  by_cases cruise : r.phase = .cruise
  · rw [update, if_pos cruise, Staircase.update_of_cruise cruise]
  · by_cases waiting : 1 < r.count.toNat
    · rw [Staircase.update_of_waiting cruise waiting]
      simp only [update, if_neg cruise, if_pos (waits.mpr waiting), staircase, left]
    · rw [Staircase.update_of_due cruise (Nat.not_lt.mp waiting)]
      simp only [update, if_neg cruise, if_neg fun more => waiting (waits.mp more)]
      obtain ⟨phase, count, rate⟩ := r
      cases phase with
      | accel => exact staircase_accelerate count rate
      | cruise => exact absurd rfl cruise
      | decel => exact staircase_decelerate count rate

theorem staircase_perform (r : Ramp) (request : RampRequest) :
    (r.perform nominal delta period request).staircase =
      r.staircase.perform nominal.toNat delta.toNat period.toNat request := by
  cases request with
  | update => exact staircase_update r
  | beginDeceleration => exact staircase_beginDeceleration r

theorem staircase_run (r : Ramp) (requests : List RampRequest) :
    (r.run nominal delta period requests).staircase =
      r.staircase.run nominal.toNat delta.toNat period.toNat requests := by
  induction requests generalizing r with
  | nil => rfl
  | cons request requests ih =>
      rw [run, List.foldl_cons, ← run, ih, staircase_perform]
      rfl

end Ramp

end StepPulse
