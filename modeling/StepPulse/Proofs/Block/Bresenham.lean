/-!
How many steps of an axis are due after so many step events. The counter of an axis starts at half
the event count, gives its steps away at each event, and gets the event count back for each step of
the motor. In closed form it is the remainder of a division, and the steps so far are the quotient.
-/

namespace StepPulse

/-- What has flowed into an axis after a number of events; each multiple of the event count is a
step. -/
def inflow (events steps n : Nat) : Nat := n * steps + (events - 1 - events / 2)

def stepsDue (events steps n : Nat) : Nat := inflow events steps n / events

def counterAfter (events steps n : Nat) : Int := events - 1 - (inflow events steps n % events : Nat)

section Counting

variable {events steps : Nat} (n : Nat)

theorem inflow_succ (events steps n : Nat) :
    inflow events steps (n + 1) = inflow events steps n + steps := by
  rw [inflow, inflow, Nat.succ_mul]
  omega

theorem inflow_zero_lt (positive : 0 < events) : inflow events steps 0 < events := by
  rw [inflow, Nat.zero_mul]
  omega

@[simp] theorem stepsDue_zero (events steps : Nat) : stepsDue events steps 0 = 0 := by
  rcases Nat.eq_zero_or_pos events with rfl | positive
  · exact Nat.div_zero _
  · exact Nat.div_eq_of_lt (inflow_zero_lt positive)

theorem counterAfter_zero (positive : 0 < events) :
    counterAfter events steps 0 = (events / 2 : Nat) := by
  rw [counterAfter, Nat.mod_eq_of_lt (inflow_zero_lt positive), inflow, Nat.zero_mul]
  omega

theorem counterAfter_lt (events steps n : Nat) : counterAfter events steps n < events := by
  rw [counterAfter]
  omega

theorem counterAfter_nonneg (positive : 0 < events) (steps n : Nat) :
    0 ≤ counterAfter events steps n := by
  have rest := Nat.mod_lt (inflow events steps n) positive
  rw [counterAfter]
  omega

/-- The steps are never more than half a step away from their share of the events. -/
theorem stepsDue_near (positive : 0 < events) (steps n : Nat) :
    2 * (((events * stepsDue events steps n : Nat) : Int) - (n * steps : Nat)).natAbs ≤ events := by
  have parts := Nat.div_add_mod (inflow events steps n) events
  have rest := Nat.mod_lt (inflow events steps n) positive
  have share : inflow events steps n = n * steps + (events - 1 - events / 2) := rfl
  rw [stepsDue]
  omega

theorem stepsDue_succ (bound : steps ≤ events) (positive : 0 < events) :
    stepsDue events steps (n + 1) =
      stepsDue events steps n + if counterAfter events steps n - steps < 0 then 1 else 0 := by
  have parts := Nat.div_add_mod (inflow events steps n) events
  have rest := Nat.mod_lt (inflow events steps n) positive
  rw [stepsDue, stepsDue, inflow_succ, counterAfter]
  -- The quotient grows by one when the remainder runs over, and cannot grow by more.
  by_cases enough : events ≤ inflow events steps n % events + steps
  · rw [if_pos (by omega)]
    have small : inflow events steps n % events + steps - events < events := by omega
    have whole : inflow events steps n + steps =
        events * (inflow events steps n / events + 1) +
          (inflow events steps n % events + steps - events) := by
      rw [Nat.mul_add, Nat.mul_one]
      omega
    calc
      (inflow events steps n + steps) / events
      _ = inflow events steps n / events + 1 +
            (inflow events steps n % events + steps - events) / events := by
        rw [whole, Nat.mul_add_div positive]
      _ = inflow events steps n / events + 1 := by rw [Nat.div_eq_of_lt small, Nat.add_zero]
  · rw [if_neg (by omega)]
    have small : inflow events steps n % events + steps < events := by omega
    have whole : inflow events steps n + steps =
        events * (inflow events steps n / events) + (inflow events steps n % events + steps) := by
      omega
    calc
      (inflow events steps n + steps) / events
      _ = inflow events steps n / events + (inflow events steps n % events + steps) / events := by
        rw [whole, Nat.mul_add_div positive]
      _ = inflow events steps n / events + 0 := by rw [Nat.div_eq_of_lt small]

theorem counterAfter_succ (bound : steps ≤ events) (positive : 0 < events) :
    counterAfter events steps (n + 1) =
      if counterAfter events steps n - steps < 0 then counterAfter events steps n - steps + events
      else counterAfter events steps n - steps := by
  have rest := Nat.mod_lt (inflow events steps n) positive
  have next : (inflow events steps n + steps) % events =
      if inflow events steps n % events + steps < events then
        inflow events steps n % events + steps
      else inflow events steps n % events + steps - events := by
    rw [← Nat.mod_add_mod]
    split
    · next fits => exact Nat.mod_eq_of_lt fits
    · next enough =>
      rw [Nat.mod_eq_sub_mod (by omega)]
      exact Nat.mod_eq_of_lt (by omega)
  rw [counterAfter, counterAfter, inflow_succ, next]
  split <;> split <;> omega

/-- After all events of a block every axis has made its steps. -/
theorem stepsDue_all (positive : 0 < events) (steps : Nat) :
    stepsDue events steps events = steps := by
  rw [stepsDue, inflow, Nat.mul_add_div positive, Nat.div_eq_of_lt (by omega), Nat.add_zero]

end Counting

example : (List.range 11).map (stepsDue 10 5) = [0, 0, 1, 1, 2, 2, 3, 3, 4, 4, 5] := by decide

end StepPulse
