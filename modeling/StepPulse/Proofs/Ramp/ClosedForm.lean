import Mathlib.Algebra.Group.Nat.Defs
import StepPulse.Proofs.Ramp.Triangle

/-!
A ramp in closed form. Its rate changes for the first time when the countdown that it begins with
has run out, and from then on once per period, so that the number of changes is a quotient. The rate
is a function of that number: on the way up a sum, cut off at the nominal rate; on the way down a
difference for as long as it stays above zero, and then a half of what is left with each change.
-/

namespace StepPulse

section Changes

variable {first period n k count : Nat}

/-- The changes of rate within `n` updates, if the first comes with update number `first` and the
others follow at intervals of one period. -/
def changesWithin (first period n : Nat) : Nat :=
  if n < first then 0 else 1 + (n - first) / period

theorem lt_changesWithin_iff (running : 0 < period) :
    k < changesWithin first period n ↔ first + k * period ≤ n := by
  rw [changesWithin]
  split
  · omega
  · rw [Nat.add_comm, Nat.lt_succ_iff, Nat.le_div_iff_mul_le running]
    omega

theorem le_changesWithin_iff (running : 0 < period) (positive : 1 ≤ k) :
    k ≤ changesWithin first period n ↔ first + (k - 1) * period ≤ n := by
  rw [← lt_changesWithin_iff running]
  omega

theorem changesWithin_zero (ahead : 0 < first) : changesWithin first period 0 = 0 := if_pos ahead

theorem changesWithin_mono (running : 0 < period) {m : Nat} (le : m ≤ n) :
    changesWithin first period m ≤ changesWithin first period n := by
  apply Nat.le_of_not_lt
  intro fewer
  have reached := (lt_changesWithin_iff running).mp fewer
  exact Nat.lt_irrefl _ ((lt_changesWithin_iff running).mpr (Nat.le_trans reached le))

/-- A countdown that stands at `count` after `n` updates, when each change starts it anew. -/
def Paced (first period n count : Nat) : Prop :=
  max 1 count + n = first + changesWithin first period n * period

theorem Paced.begins (period count : Nat) : Paced (max 1 count) period 0 count := by
  rw [Paced, changesWithin_zero (by omega), Nat.zero_mul]

theorem Paced.unchanged (running : 0 < period) (paced : Paced first period n count)
    (waiting : 1 < count) : changesWithin first period (n + 1) = changesWithin first period n := by
  apply Nat.le_antisymm
  · apply Nat.le_of_not_lt
    rw [lt_changesWithin_iff running]
    rw [Paced] at paced
    omega
  · exact changesWithin_mono running (Nat.le_add_right n 1)

theorem Paced.changed (running : 0 < period) (paced : Paced first period n count)
    (due : count ≤ 1) :
    changesWithin first period (n + 1) = changesWithin first period n + 1 := by
  rw [Paced] at paced
  apply Nat.le_antisymm
  · apply Nat.le_of_not_lt
    rw [lt_changesWithin_iff running, Nat.succ_mul]
    omega
  · apply (lt_changesWithin_iff running).mpr
    omega

theorem Paced.waits (running : 0 < period) (paced : Paced first period n count)
    (waiting : 1 < count) : Paced first period (n + 1) (count - 1) := by
  have same := paced.unchanged running waiting
  rw [Paced] at paced ⊢
  rw [same]
  omega

theorem Paced.restarts (running : 0 < period) (paced : Paced first period n count)
    (due : count ≤ 1) : Paced first period (n + 1) period := by
  have more := paced.changed running due
  rw [Paced] at paced ⊢
  rw [more, Nat.succ_mul]
  omega

end Changes

section Lowered

variable {rate delta k : Nat}

def strides (rate delta : Nat) : Nat := (rate - 1) / delta

/-- A rate after `k` changes on the way down. -/
def lowered (rate delta k : Nat) : Nat :=
  if k ≤ strides rate delta then rate - k * delta
  else (rate - strides rate delta * delta) >>> (k - strides rate delta)

theorem lt_strides_iff (falling : 0 < delta) : k < strides rate delta ↔ (k + 1) * delta < rate := by
  have positive : 0 < (k + 1) * delta := Nat.mul_pos (Nat.succ_pos k) falling
  rw [strides, ← Nat.add_one_le_iff, Nat.le_div_iff_mul_le falling]
  omega

theorem left_le (falling : 0 < delta) : rate - strides rate delta * delta ≤ delta := by
  have last : ¬ (strides rate delta + 1) * delta < rate :=
    fun more => Nat.lt_irrefl _ ((lt_strides_iff falling).mpr more)
  rw [Nat.succ_mul] at last
  omega

theorem lowered_zero (rate delta : Nat) : lowered rate delta 0 = rate := by
  rw [lowered, if_pos (Nat.zero_le _), Nat.zero_mul, Nat.sub_zero]

theorem lowered_beyond (rate delta i : Nat) :
    lowered rate delta (strides rate delta + i) =
      (rate - strides rate delta * delta) >>> i := by
  rw [lowered]
  split
  · have none : i = 0 := by omega
    rw [none, Nat.add_zero, Nat.shiftRight_zero]
  · rw [Nat.add_sub_cancel_left]

/-- One change more takes off a stride where that leaves something, and else a half. -/
theorem lowered_succ (falling : 0 < delta) (rate k : Nat) :
    lowered rate delta (k + 1) =
      if delta < lowered rate delta k then lowered rate delta k - delta
      else lowered rate delta k / 2 := by
  by_cases ahead : k < strides rate delta
  · have above := (lt_strides_iff falling).mp ahead
    have now : lowered rate delta k = rate - k * delta := if_pos (Nat.le_of_lt ahead)
    have next : lowered rate delta (k + 1) = rate - (k + 1) * delta :=
      if_pos (Nat.add_one_le_iff.mpr ahead)
    rw [Nat.succ_mul] at above next
    rw [now, next, if_pos (by omega)]
    omega
  · obtain ⟨i, rfl⟩ := Nat.exists_eq_add_of_le (Nat.not_lt.mp ahead)
    have low : (rate - strides rate delta * delta) >>> i ≤ delta := by
      rw [Nat.shiftRight_eq_div_pow]
      exact Nat.le_trans (Nat.div_le_self _ _) (left_le falling)
    rw [Nat.add_assoc, lowered_beyond, lowered_beyond, if_neg (Nat.not_lt.mpr low),
      Nat.shiftRight_succ]

theorem lowered_succ_lt (falling : 0 < delta) (moving : 0 < lowered rate delta k) :
    lowered rate delta (k + 1) < lowered rate delta k := by
  rw [lowered_succ falling]
  split
  · omega
  · omega

theorem lowered_antitone (falling : 0 < delta) (rate : Nat) {j k : Nat} (le : j ≤ k) :
    lowered rate delta k ≤ lowered rate delta j := by
  induction le with
  | refl => exact Nat.le_refl _
  | @step k _ ih =>
      apply Nat.le_trans _ ih
      rw [lowered_succ falling]
      split
      · exact Nat.sub_le _ _
      · exact Nat.div_le_self _ _

theorem lowered_eq_zero (falling : 0 < delta) {bits : Nat} (fits : rate < 2 ^ bits)
    (enough : strides rate delta + bits ≤ k) : lowered rate delta k = 0 := by
  apply Nat.le_zero.mp
  calc lowered rate delta k
    _ ≤ lowered rate delta (strides rate delta + bits) := lowered_antitone falling rate enough
    _ = (rate - strides rate delta * delta) / 2 ^ bits := by
      rw [lowered_beyond, Nat.shiftRight_eq_div_pow]
    _ = 0 := Nat.div_eq_of_lt (Nat.lt_of_le_of_lt (Nat.sub_le _ _) fits)

end Lowered

namespace Staircase

variable {nominal delta period first initial n : Nat} {s : Staircase}

structure Fallen (initial delta first period n : Nat) (s : Staircase) : Prop where
  decel : s.phase = .decel
  paced : Paced first period n s.count
  rate : s.rate = lowered initial delta (changesWithin first period n)

theorem Fallen.update (falling : 0 < delta) (running : 0 < period)
    (fallen : s.Fallen initial delta first period n) :
    (s.update nominal delta period).Fallen initial delta first period (n + 1) := by
  obtain ⟨decel, paced, rate⟩ := fallen
  have lower := lowered_succ falling initial (changesWithin first period n)
  have updates := updates nominal delta period s
  generalize s.update nominal delta period = s' at updates
  rw [← rate] at lower
  cases updates with
  | cruises cruise => simp [decel] at cruise
  | climbs accel => simp [decel] at accel
  | arrives accel => simp [decel] at accel
  | waits _ waiting =>
      refine ⟨decel, paced.waits running waiting, ?_⟩
      rw [paced.unchanged running waiting]
      exact rate
  | falls _ due above =>
      refine ⟨decel, paced.restarts running due, ?_⟩
      rw [paced.changed running due, lower, if_pos above]
  | halves _ due low =>
      refine ⟨decel, paced.restarts running due, ?_⟩
      rw [paced.changed running due, lower, if_neg (Nat.not_lt.mpr low)]

theorem fallen_after (falling : 0 < delta) (running : 0 < period) (decel : s.phase = .decel)
    (n : Nat) :
    (s.after nominal delta period n).Fallen s.rate delta (max 1 s.count) period n := by
  induction n with
  | zero =>
      have none : changesWithin (max 1 s.count) period 0 = 0 := changesWithin_zero (by omega)
      exact ⟨decel, Paced.begins period s.count, by rw [none, lowered_zero]; rfl⟩
  | succ n ih =>
      rw [after_succ]
      exact ih.update falling running

inductive Risen (initial nominal delta first period n : Nat) (s : Staircase) : Prop
  | climbing :
      s.phase = .accel → Paced first period n s.count →
      s.rate = initial + changesWithin first period n * delta →
      (0 < changesWithin first period n →
        initial + changesWithin first period n * delta < nominal) →
      Risen initial nominal delta first period n s
  | level :
      s.phase = .cruise → s.rate = nominal → 0 < changesWithin first period n →
      nominal ≤ initial + changesWithin first period n * delta →
      Risen initial nominal delta first period n s

theorem Risen.update (running : 0 < period) (risen : s.Risen initial nominal delta first period n) :
    (s.update nominal delta period).Risen initial nominal delta first period (n + 1) := by
  cases risen with
  | level cruise top begun reached =>
      have more : changesWithin first period n ≤ changesWithin first period (n + 1) :=
        changesWithin_mono running (Nat.le_add_right n 1)
      have further := Nat.mul_le_mul_right delta more
      rw [update_of_cruise cruise]
      exact .level cruise top (by omega) (by omega)
  | climbing accel paced rate below =>
      have updates := updates nominal delta period s
      generalize s.update nominal delta period = s' at updates
      cases updates with
      | cruises cruise => simp [accel] at cruise
      | falls decel => simp [accel] at decel
      | halves decel => simp [accel] at decel
      | waits _ waiting =>
          rw [← paced.unchanged running waiting] at rate below
          exact .climbing accel (paced.waits running waiting) rate below
      | climbs _ due short =>
          have sum : s.rate + delta = initial + changesWithin first period (n + 1) * delta := by
            rw [rate, paced.changed running due, Nat.succ_mul, Nat.add_assoc]
          rw [sum] at short
          exact .climbing accel (paced.restarts running due) sum fun _ => short
      | arrives _ due reached =>
          have changed := paced.changed running due
          rw [rate, Nat.add_assoc, ← Nat.succ_mul, Nat.succ_eq_add_one, ← changed] at reached
          exact .level rfl rfl (by omega) reached

theorem Risen.rate_eq (risen : s.Risen initial nominal delta first period n) :
    s.rate = if changesWithin first period n = 0 then initial
      else min (initial + changesWithin first period n * delta) nominal := by
  cases risen with
  | level _ top begun reached => rw [if_neg (Nat.ne_of_gt begun), Nat.min_eq_right reached, top]
  | climbing _ _ rate below =>
      split
      · next none => rw [rate, none, Nat.zero_mul, Nat.add_zero]
      · next some => rw [Nat.min_eq_left (Nat.le_of_lt (below (Nat.pos_of_ne_zero some))), rate]

theorem Risen.phase_eq (risen : s.Risen initial nominal delta first period n) :
    s.phase = if 1 ≤ changesWithin first period n ∧
      nominal ≤ initial + changesWithin first period n * delta then .cruise else .accel := by
  cases risen with
  | level cruise _ begun reached => rw [if_pos ⟨begun, reached⟩, cruise]
  | climbing accel _ _ below =>
      rw [if_neg, accel]
      intro arrived
      exact Nat.not_le.mpr (below arrived.1) arrived.2

theorem risen_after (running : 0 < period) (initial nominal delta n : Nat) :
    ((start initial period).after nominal delta period n).Risen initial nominal delta
      (max 1 (period / 2)) period n := by
  induction n with
  | zero =>
      have none : changesWithin (max 1 (period / 2)) period 0 = 0 := changesWithin_zero (by omega)
      apply Risen.climbing
      · rfl
      · exact Paced.begins period (period / 2)
      · rw [none, Nat.zero_mul]
        rfl
      · rw [none]
        exact nofun
  | succ n ih =>
      rw [after_succ]
      exact ih.update running

end Staircase

namespace Ramp

variable {nominal delta period : UInt32} {r : Ramp} {n : Nat}

def due (r : Ramp) : Bool := r.phase != .cruise && r.count ≤ 1

variable (nominal delta period) in
def turns (r : Ramp) (n : Nat) : Nat :=
  (List.range n).countP fun i => (r.after nominal delta period i).due

theorem turns_succ (r : Ramp) (n : Nat) :
    r.turns nominal delta period (n + 1) =
      r.turns nominal delta period n + if (r.after nominal delta period n).due then 1 else 0 := by
  simp [turns, List.range_succ, List.countP_append, List.countP_singleton]

theorem due_of_decel (decel : r.phase = .decel) : r.due = true ↔ r.count.toNat ≤ 1 := by
  rw [due, decel, ← UInt32.toNat_one, ← UInt32.le_iff_toNat_le]
  simp

structure FallsInClosedForm (nominal delta period : UInt32) (first : Nat) (r : Ramp) : Prop where
  turns : ∀ n, r.turns nominal delta period n = changesWithin first period.toNat n
  rate : ∀ n, (r.after nominal delta period n).rate.toNat =
    lowered r.rate.toNat delta.toNat (changesWithin first period.toNat n)
  falls : ∀ n, (r.after nominal delta period n).due = true →
    (r.after nominal delta period n).rate ≠ 0 →
    (r.after nominal delta period (n + 1)).rate < (r.after nominal delta period n).rate
  steady : ∀ n, (r.after nominal delta period n).due = false →
    (r.after nominal delta period (n + 1)).rate = (r.after nominal delta period n).rate
  descends : ∀ {m n}, m ≤ n →
    (r.after nominal delta period n).rate ≤ (r.after nominal delta period m).rate
  ends : ∀ n, first + (strides r.rate.toNat delta.toNat + 31) * period.toNat ≤ n →
    (r.after nominal delta period n).rate = 0

section Falls

variable (falling : 0 < delta) (running : 0 < period) (decel : r.phase = .decel)

include falling running decel

theorem fallen_after (nominal : UInt32) (n : Nat) :
    (r.after nominal delta period n).staircase.Fallen r.rate.toNat delta.toNat
      (max 1 r.count.toNat) period.toNat n := by
  rw [staircase_after]
  exact Staircase.fallen_after (s := r.staircase) (UInt32.lt_iff_toNat_lt.mp falling)
    (UInt32.lt_iff_toNat_lt.mp running) decel n

theorem turns_of_decel (nominal : UInt32) (n : Nat) :
    r.turns nominal delta period n = changesWithin (max 1 r.count.toNat) period.toNat n := by
  have interval : 0 < period.toNat := UInt32.lt_iff_toNat_lt.mp running
  induction n with
  | zero => exact (changesWithin_zero (by omega)).symm
  | succ n ih =>
      have fallen := fallen_after falling running decel nominal n
      have now := due_of_decel fallen.decel
      rw [turns_succ, ih]
      by_cases due : (r.after nominal delta period n).count.toNat ≤ 1
      · rw [fallen.paced.changed interval due, if_pos (now.mpr due)]
      · rw [fallen.paced.unchanged interval (Nat.lt_of_not_le due), if_neg (due ∘ now.mp)]
        exact Nat.add_zero _

theorem fallsInClosedForm (nominal : UInt32) :
    FallsInClosedForm nominal delta period (max 1 r.count.toNat) r := by
  have stride : 0 < delta.toNat := UInt32.lt_iff_toNat_lt.mp falling
  have interval : 0 < period.toNat := UInt32.lt_iff_toNat_lt.mp running
  have fallen := fallen_after falling running decel nominal
  have rate : ∀ n, (r.after nominal delta period n).rate.toNat = lowered r.rate.toNat delta.toNat
      (changesWithin (max 1 r.count.toNat) period.toNat n) := fun n => (fallen n).rate
  refine
    { turns := turns_of_decel falling running decel nominal, rate := rate, falls := ?_
      steady := ?_, descends := ?_, ends := ?_ }
  · intro n due moving
    have now := (due_of_decel (fallen n).decel).mp due
    have positive := UInt32.lt_iff_toNat_lt.mp (UInt32.pos_iff_ne_zero.mpr moving)
    rw [rate] at positive
    rw [UInt32.lt_iff_toNat_lt, rate, rate, (fallen n).paced.changed interval now]
    exact lowered_succ_lt stride positive
  · intro n waiting
    have later : 1 < (r.after nominal delta period n).count.toNat := by
      apply Nat.lt_of_not_le
      intro now
      rw [(due_of_decel (fallen n).decel).mpr now] at waiting
      contradiction
    apply UInt32.toNat_inj.mp
    rw [rate, rate, (fallen n).paced.unchanged interval later]
  · intro m n le
    rw [UInt32.le_iff_toNat_le, rate, rate]
    exact lowered_antitone stride _ (changesWithin_mono interval le)
  · -- Past the last full stride a rate of 32 bits is gone after as many halvings.
    intro n late
    have enough := (lt_changesWithin_iff interval).mpr late
    apply UInt32.toNat_inj.mp
    rw [rate, UInt32.toNat_zero]
    exact lowered_eq_zero stride r.rate.toNat_lt enough

end Falls

/-- From cruise a descent begins with half a period, and out of an ascent with what mirrors its
countdown. From there on its course is settled by its rate alone. -/
theorem falls_in_closed_form {delta period : UInt32} {r : Ramp} {count : Nat}
    (falling : 0 < delta) (running : 0 < period)
    (rising : r.phase = .cruise ∧ count = period.toNat / 2 ∨
      r.phase = .accel ∧ count = max (period.toNat - r.count.toNat) 1) (nominal : UInt32) :
    (r.beginDeceleration period).phase = .decel ∧ (r.beginDeceleration period).rate = r.rate ∧
      (r.beginDeceleration period).count.toNat = count ∧
      FallsInClosedForm nominal delta period (max 1 count) (r.beginDeceleration period) := by
  have decel := phase_beginDeceleration r period
  have law := fallsInClosedForm falling running decel nominal
  have turned : (r.beginDeceleration period).rate = r.rate ∧
      (r.beginDeceleration period).count.toNat = count := by
    rcases rising with ⟨cruise, rfl⟩ | ⟨accel, rfl⟩
    · simp [beginDeceleration, cruise]
    · simp [beginDeceleration, accel, Saturating.toNat_max, Saturating.toNat_sub]
  rw [turned.2] at law
  exact ⟨decel, turned.1, turned.2, law⟩

theorem halved_near_standstill :
    (0 : UInt32) < 500 ∧ (0 : UInt32) < 200 ∧
      ((start 700 200).phase = .accel ∧
        100 = max ((200 : UInt32).toNat - (start 700 200).count.toNat) 1) ∧
      FallsInClosedForm 1000 500 200 100 ((start 700 200).beginDeceleration 200) ∧
      (((start 700 200).beginDeceleration 200).after 1000 500 200 900).rate = 12 := by
  have rising : (start 700 200).phase = .accel ∧
      100 = max ((200 : UInt32).toNat - (start 700 200).count.toNat) 1 := by decide
  obtain ⟨_, _, _, law⟩ := falls_in_closed_form (by decide : (0 : UInt32) < 500)
    (by decide : (0 : UInt32) < 200) (Or.inr rising) 1000
  refine ⟨by decide, by decide, rising, law, ?_⟩
  apply UInt32.toNat_inj.mp
  rw [law.rate]
  decide

structure RisesInClosedForm (initial nominal delta period : UInt32) (first : Nat) : Prop where
  rate : ∀ n, ((start initial period).after nominal delta period n).rate.toNat =
    if changesWithin first period.toNat n = 0 then initial.toNat
    else min (initial.toNat + changesWithin first period.toNat n * delta.toNat) nominal.toNat
  phase : ∀ n, ((start initial period).after nominal delta period n).phase =
    if 1 ≤ changesWithin first period.toNat n ∧
      nominal.toNat ≤ initial.toNat + changesWithin first period.toNat n * delta.toNat then .cruise
    else .accel
  arrives : ∀ k, 1 ≤ k → nominal.toNat ≤ initial.toNat + k * delta.toNat →
    (∀ j, 1 ≤ j → j < k → initial.toNat + j * delta.toNat < nominal.toNat) →
    ∀ n, ((start initial period).after nominal delta period n).phase = .cruise ↔
      first + (k - 1) * period.toNat ≤ n

theorem phase_eq_cruise_iff {arrived : Prop} [Decidable arrived] :
    (if arrived then RampPhase.cruise else RampPhase.accel) = .cruise ↔ arrived := by
  split
  · next holds => simp [holds]
  · next fails => simp [fails]

/-- The sums are those of natural numbers: where one leaves the range of a word, the nominal rate is
reached. -/
theorem rises_in_closed_form {period : UInt32} (running : 0 < period)
    (initial nominal delta : UInt32) :
    RisesInClosedForm initial nominal delta period (max 1 (period.toNat / 2)) := by
  have interval : 0 < period.toNat := UInt32.lt_iff_toNat_lt.mp running
  have risen := Staircase.risen_after interval initial.toNat nominal.toNat delta.toNat
  simp only [← staircase_start, ← staircase_after] at risen
  constructor
  case rate =>
    intro n
    exact (risen n).rate_eq
  case phase =>
    intro n
    exact (risen n).phase_eq
  case arrives =>
    intro k positive reaches short n
    have phase : ((start initial period).after nominal delta period n).phase = _ :=
      (risen n).phase_eq
    rw [phase, phase_eq_cruise_iff, ← le_changesWithin_iff interval positive]
    constructor
    · intro arrived
      apply Nat.le_of_not_lt
      intro fewer
      exact Nat.not_le.mpr (short _ arrived.1 fewer) arrived.2
    · intro enough
      have further := Nat.mul_le_mul_right delta.toNat enough
      exact ⟨Nat.le_trans positive enough, by omega⟩

theorem cruising_from_tenth_change :
    (0 : UInt32) < 5 ∧ RisesInClosedForm 7 1000 100 5 2 ∧
      ∀ n, ((start 7 5).after 1000 100 5 n).phase = .cruise ↔ 47 ≤ n := by
  have law : RisesInClosedForm 7 1000 100 5 2 := rises_in_closed_form (by decide) 7 1000 100
  refine ⟨by decide, law, law.arrives 10 (by decide) (by decide) ?_⟩
  intro j _ fewer
  show 7 + j * 100 < 1000
  omega

end Ramp

end StepPulse
