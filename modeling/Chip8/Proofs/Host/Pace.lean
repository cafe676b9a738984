import Mathlib.Algebra.Order.Floor.Div
import Chip8.Proofs.Host.Clock

set_option autoImplicit false

namespace Chip8.Clock

def after : Nat → Clock → Clock
  | 0, c => c
  | n + 1, c => after n c.next

theorem after_at {rate ticks : Nat} (first count : Nat) (c : Clock) (time : At rate ticks first c) :
    At rate ticks (first + count) (c.after count) := by
  induction count generalizing first c with
  | zero => exact time
  | succ count ih =>
      have later := ih (first + 1) c.next (next_at time)
      rw [Nat.add_right_comm] at later
      exact later

-- What the batches add up to, and what had been earned before them.
theorem sum_batches {rate ticks : Nat} (first count : Nat) (c : Clock) (time : At rate ticks first c) :
    first * rate / ticks + (c.batches count).sum = (first + count) * rate / ticks := by
  induction count generalizing first c with
  | zero => rfl
  | succ count ih =>
      have rest := ih (first + 1) c.next (next_at time)
      have batch := batch_to_nat time
      have grows : first * rate / ticks ≤ (first + 1) * rate / ticks :=
        Nat.div_le_div_right (Nat.mul_le_mul_right rate (Nat.le_succ first))
      have later : first + 1 + count = first + (count + 1) := Nat.add_right_comm first 1 count
      rw [later] at rest
      rw [batches, List.sum_cons]
      omega

theorem sum_window {rate ticks first : Nat} {c : Clock} (time : At rate ticks first c) :
    (c.batches ticks).sum = rate := by
  have sum := sum_batches first ticks c time
  rw [Nat.add_mul, Nat.add_mul_div_left _ _ time.positive] at sum
  exact Nat.add_left_cancel sum

-- A carry is less than one tick's worth, so that it takes a batch from the floor to the ceiling at most.
theorem batch_floor_or_ceiling {rate ticks n : Nat} {c : Clock} (time : At rate ticks n c) :
    c.batch.toNat = rate / ticks ∨ c.batch.toNat = rate ⌈/⌉ ticks := by
  have small : n * rate % ticks < ticks := Nat.mod_lt _ time.positive
  have batch : c.batch.toNat = (n * rate % ticks + rate) / ticks := by
    rw [Clock.batch, UInt32.toNat_div, sum_to_nat time, time.ticks_eq]
  have least : rate / ticks ≤ (n * rate % ticks + rate) / ticks :=
    Nat.div_le_div_right (Nat.le_add_left rate _)
  have most : (n * rate % ticks + rate) / ticks ≤ rate ⌈/⌉ ticks := by
    rw [Nat.ceilDiv_eq_add_pred_div]
    exact Nat.div_le_div_right (by omega)
  have adjacent : rate ⌈/⌉ ticks ≤ rate / ticks + 1 :=
    (ceilDiv_le_iff_le_mul time.positive).mpr (Nat.lt_mul_div_succ rate time.positive).le
  omega

theorem clock_never_drifts (rate ticks : UInt32) (bound : rate.toNat + max ticks.toNat 1 ≤ 2 ^ 32) (n : Nat) :
    ((start rate ticks).after n).carry.toNat = n * rate.toNat % max ticks.toNat 1 ∧
    ((start rate ticks).after n).carry.toNat < max ticks.toNat 1 ∧
    ((start rate ticks).after n).carry.toNat + ((start rate ticks).after n).rate.toNat < 2 ^ 32 ∧
    ((start rate ticks).batches n).sum = n * rate.toNat / max ticks.toNat 1 ∧
    (((start rate ticks).after n).batches (max ticks.toNat 1)).sum = rate.toNat ∧
    (((start rate ticks).after n).batch.toNat = rate.toNat / max ticks.toNat 1 ∨
      ((start rate ticks).after n).batch.toNat = rate.toNat ⌈/⌉ max ticks.toNat 1) := by
  have started := start_at rate ticks bound
  have time := after_at 0 n (start rate ticks) started
  have total := sum_batches 0 n (start rate ticks) started
  rw [Nat.zero_add] at time
  rw [Nat.zero_mul, Nat.zero_div, Nat.zero_add, Nat.zero_add] at total
  have small : ((start rate ticks).after n).carry.toNat < max ticks.toNat 1 := by
    rw [time.carry_eq]
    exact Nat.mod_lt _ time.positive
  refine ⟨time.carry_eq, small, ?_, total, sum_window time, batch_floor_or_ceiling time⟩
  rw [time.rate_eq]
  omega

-- The rate is as high as the bound allows and the carry as high as it gets: their sum is the last word there is. The
-- window opens at the sixth batch and holds the rate all the same.
theorem brimming_clock_keeps_pace :
    (0xFFFFFFF9 : UInt32).toNat + max (7 : UInt32).toNat 1 ≤ 2 ^ 32 ∧
    ((start 0xFFFFFFF9 7).after 5).carry.toNat = 6 ∧
    ((start 0xFFFFFFF9 7).after 5).carry.toNat + ((start 0xFFFFFFF9 7).after 5).rate.toNat = 2 ^ 32 - 1 ∧
    ((start 0xFFFFFFF9 7).batches 5).sum = 3067833777 ∧
    (((start 0xFFFFFFF9 7).after 5).batches 7).sum = 0xFFFFFFF9 := by
  have bound : (0xFFFFFFF9 : UInt32).toNat + max (7 : UInt32).toNat 1 ≤ 2 ^ 32 := by decide
  obtain ⟨carry, _, _, total, window, _⟩ := clock_never_drifts 0xFFFFFFF9 7 bound 5
  refine ⟨bound, carry, ?_, total, window⟩
  rw [carry]
  rfl

example : ((start 0xFFFFFFFA 7).after 4).carry.toNat + ((start 0xFFFFFFFA 7).after 4).rate.toNat = 2 ^ 32 := by decide

end Chip8.Clock
