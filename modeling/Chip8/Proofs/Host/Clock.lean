import Chip8.Host.Clock

set_option autoImplicit false

namespace Chip8.Clock

-- The bound leaves room for the sum of carry and rate, which stays below rate + ticks.
structure At (rate ticks n : Nat) (c : Clock) : Prop where
  rate_eq : c.rate.toNat = rate
  ticks_eq : c.ticks.toNat = ticks
  positive : 0 < ticks
  bound : rate + ticks ≤ 0x100000000
  carry_eq : c.carry.toNat = n * rate % ticks

theorem start_at (rate ticks : UInt32) (bound : rate.toNat + max ticks.toNat 1 ≤ 0x100000000) :
    At rate.toNat (max ticks.toNat 1) 0 (start rate ticks) where
  rate_eq := rfl
  ticks_eq := by
    by_cases none : ticks = 0
    · subst none
      rfl
    · have positive : ticks.toNat ≠ 0 := fun zero => none (UInt32.toNat_inj.mp zero)
      simp only [start, if_neg none]
      omega
  positive := by omega
  bound := bound
  carry_eq := by simp [start]

theorem sum_to_nat {rate ticks n : Nat} {c : Clock} (time : At rate ticks n c) :
    (c.carry + c.rate).toNat = n * rate % ticks + rate := by
  have small : n * rate % ticks < ticks := Nat.mod_lt _ time.positive
  have bound := time.bound
  rw [UInt32.toNat_add, time.carry_eq, time.rate_eq]
  exact Nat.mod_eq_of_lt (by omega)

theorem next_at {rate ticks n : Nat} {c : Clock} (time : At rate ticks n c) : At rate ticks (n + 1) c.next where
  rate_eq := time.rate_eq
  ticks_eq := time.ticks_eq
  positive := time.positive
  bound := time.bound
  carry_eq := by
    change ((c.carry + c.rate) % c.ticks).toNat = _
    rw [UInt32.toNat_mod, sum_to_nat time, time.ticks_eq, Nat.mod_add_mod, Nat.add_mul, Nat.one_mul]

theorem batch_to_nat {rate ticks n : Nat} {c : Clock} (time : At rate ticks n c) :
    c.batch.toNat = (n + 1) * rate / ticks - n * rate / ticks := by
  have division : (n + 1) * rate = ticks * (n * rate / ticks) + (n * rate % ticks + rate) := by
    have parts := Nat.div_add_mod (n * rate) ticks
    rw [Nat.add_mul]
    omega
  rw [batch, UInt32.toNat_div, sum_to_nat time, time.ticks_eq, division, Nat.mul_add_div time.positive,
    Nat.add_sub_cancel_left]

def batches : Nat → Clock → List Nat
  | 0, _ => []
  | n + 1, c => c.batch.toNat :: batches n c.next

theorem batches_succ (count : Nat) (c : Clock) : ∃ n, batches (count + 1) c = batches count c ++ [n] := by
  induction count generalizing c with
  | zero => exact ⟨_, rfl⟩
  | succ count ih =>
      obtain ⟨n, more⟩ := ih c.next
      exact ⟨n, by rw [batches, more, batches, List.cons_append]⟩

theorem batches_at {rate ticks : Nat} (first count : Nat) (c : Clock) (time : At rate ticks first c) :
    batches count c = (List.range' first count).map fun k => (k + 1) * rate / ticks - k * rate / ticks := by
  induction count generalizing first c with
  | zero => rfl
  | succ count ih =>
      rw [batches, List.range'_succ, List.map_cons, batch_to_nat time, ih (first + 1) c.next (next_at time)]

end Chip8.Clock
