import Mathlib.Algebra.Order.Floor.Div
import Chip8.Host.Scripted
import Chip8.Proofs.Host.Console

set_option autoImplicit false

namespace Chip8

namespace Action

theorem schedule_succ (rate ticks n : Nat) :
    schedule rate ticks (n + 1) =
      schedule rate ticks n ++ round ((n + 1) * rate / ticks - n * rate / ticks) := by
  simp only [schedule, List.range_succ, List.flatMap_append, List.flatMap_singleton]

theorem count_round (attempts : Nat) :
    (round attempts).count .poll = 1 ∧ (round attempts).count .attempt = attempts ∧
      (round attempts).count .countdown = 1 ∧ (round attempts).count .draw = 1 := by
  simp [round, List.count_append, List.count_replicate]

theorem count_others (rate ticks n : Nat) :
    (schedule rate ticks n).count .poll = n ∧ (schedule rate ticks n).count .countdown = n ∧
      (schedule rate ticks n).count .draw = n := by
  induction n with
  | zero => exact ⟨rfl, rfl, rfl⟩
  | succ n ih =>
      obtain ⟨polls, _, countdowns, draws⟩ := count_round ((n + 1) * rate / ticks - n * rate / ticks)
      simp only [schedule_succ, List.count_append, ih, polls, countdowns, draws, and_self]

theorem count_attempts (rate ticks n : Nat) : (schedule rate ticks n).count .attempt = n * rate / ticks := by
  induction n with
  | zero => simp [schedule]
  | succ n ih =>
      have grows : n * rate / ticks ≤ (n + 1) * rate / ticks :=
        Nat.div_le_div_right (Nat.mul_le_mul_right rate (Nat.le_succ n))
      rw [schedule_succ, List.count_append, ih, (count_round _).2.1]
      exact Nat.add_sub_cancel' grows

theorem round_split (attempts : Nat) (before after : List Action)
    (split : round attempts = before ++ .attempt :: after) :
    ∃ i, i < attempts ∧ before = .poll :: List.replicate i .attempt := by
  cases before with
  | nil => cases split
  | cons first rest =>
      obtain ⟨poll, tail⟩ := List.cons.inj split
      subst poll
      rcases List.append_eq_append_iff.mp tail with ⟨middle, _, closing⟩ | ⟨middle, batch, closing⟩
      · have member : Action.attempt ∈ [countdown, draw] := by
          rw [closing]
          simp
        simp at member
      · cases middle with
        | nil => cases closing
        | cons next others =>
            obtain ⟨total, here, _⟩ := List.append_eq_replicate_iff.mp batch.symm
            refine ⟨rest.length, ?_, by rw [here]; simp⟩
            simp only [List.length_cons] at total
            omega

theorem schedule_split (rate ticks limit : Nat) (before after : List Action)
    (split : schedule rate ticks limit = before ++ .attempt :: after) :
    ∃ k i, k < limit ∧ i < (k + 1) * rate / ticks - k * rate / ticks ∧
      before = schedule rate ticks k ++ .poll :: List.replicate i .attempt := by
  induction limit generalizing after with
  | zero => simp [schedule] at split
  | succ n ih =>
      rw [schedule_succ] at split
      rcases List.append_eq_append_iff.mp split with ⟨middle, inside, last⟩ | ⟨middle, earlier, rest⟩
      · obtain ⟨i, below, here⟩ := round_split _ middle after last
        exact ⟨n, i, Nat.lt_succ_self n, below, by rw [inside, here]⟩
      · cases middle with
        | nil => cases rest
        | cons next others =>
            obtain ⟨same, _⟩ := List.cons.inj rest
            subst same
            obtain ⟨k, i, below, inside, here⟩ := ih others earlier
            exact ⟨k, i, Nat.lt_succ_of_lt below, inside, here⟩

def due (rate ticks j : Nat) : Nat :=
  (j + 1) * ticks ⌈/⌉ rate

theorem due_le_iff (rate ticks j n : Nat) (running : 0 < rate) (positive : 0 < ticks) :
    due rate ticks j ≤ n ↔ j < n * rate / ticks := by
  rw [due, ceilDiv_le_iff_le_mul running, ← Nat.succ_le_iff, Nat.le_div_iff_mul_le positive, Nat.mul_comm rate n]

theorem due_in_round (rate ticks k i : Nat) (positive : 0 < ticks)
    (inside : i < (k + 1) * rate / ticks - k * rate / ticks) : due rate ticks (k * rate / ticks + i) = k + 1 := by
  have running : 0 < rate := by
    apply Nat.pos_of_ne_zero
    rintro rfl
    simp at inside
  have reached := (due_le_iff rate ticks (k * rate / ticks + i) (k + 1) running positive).mpr (by omega)
  have notBefore := mt (due_le_iff rate ticks (k * rate / ticks + i) k running positive).mp (by omega)
  omega

theorem before_attempt (rate ticks limit : Nat) (positive : 0 < ticks) (before after : List Action)
    (split : schedule rate ticks limit = before ++ .attempt :: after) :
    before.count .poll = due rate ticks (before.count .attempt) ∧
      before.count .countdown + 1 = due rate ticks (before.count .attempt) ∧
      before.count .draw + 1 = due rate ticks (before.count .attempt) := by
  obtain ⟨k, i, _, inside, rfl⟩ := schedule_split rate ticks limit before after split
  obtain ⟨polls, countdowns, draws⟩ := count_others rate ticks k
  have number : (schedule rate ticks k ++ Action.poll :: List.replicate i Action.attempt).count Action.attempt =
      k * rate / ticks + i := by
    simp [List.count_append, count_attempts]
  rw [number, due_in_round rate ticks k i positive inside]
  simp [List.count_append, List.count_replicate, polls, countdowns, draws]

end Action

namespace Host

variable {ι δ : Type}

def plan (h : Host ι δ) (limit : Nat) : List Action :=
  Action.schedule h.rate h.tickRate limit

theorem run_follows_plan [Input ι] [Display δ] (h : Host ι δ) (limit : Nat)
    (bound : h.rate + h.tickRate ≤ 2 ^ 32) :
    ((h.run limit).2 = (h.opening.follow (h.plan limit)).2 ∧
      (h.run limit).1.machine = (h.opening.follow (h.plan limit)).1.machine ∧
      (h.run limit).1.cycles = (h.opening.follow (h.plan limit)).1.cycles ∧
      (h.run limit).1.input = (h.opening.follow (h.plan limit)).1.input ∧
      (h.run limit).1.display = (h.opening.follow (h.plan limit)).1.display ∧
      (h.filmed.run limit).1.display.frames = (h.opening.follow (h.plan limit)).1.frames) ∧
    (h.rate = 0 → Action.attempt ∉ h.plan limit) ∧
    (0 < h.rate →
      (∀ j, j < (h.plan limit).count .attempt ↔ Action.due h.rate h.tickRate j ≤ limit) ∧
      (∀ before after, h.plan limit = before ++ .attempt :: after →
        before.count .poll = Action.due h.rate h.tickRate (before.count .attempt) ∧
        before.count .countdown = Action.due h.rate h.tickRate (before.count .attempt) - 1 ∧
        before.count .draw = Action.due h.rate h.tickRate (before.count .attempt) - 1 ∧
        ∀ going, h.opening.follow before = (going, none) →
          going.frames.length = Action.due h.rate h.tickRate (before.count .attempt) - 1 ∧
          going.cycles = h.cycles + before.count .attempt ∧
          h.opening.follow (h.plan limit) = (going.act .attempt).andThen fun made => made.follow after)) := by
  refine ⟨?_, ?_, ?_⟩
  · rw [plan, follow_schedule limit h (by omega), run_filmed limit h]
    exact ⟨rfl, rfl, rfl, rfl, rfl, rfl⟩
  · intro still member
    have none := Action.count_attempts h.rate h.tickRate limit
    rw [still, Nat.mul_zero, Nat.zero_div] at none
    rw [plan, still] at member
    exact List.count_eq_zero.mp none member
  · intro running
    have positive : 0 < h.tickRate := Nat.lt_of_lt_of_le Nat.zero_lt_one (Nat.le_max_right _ _)
    refine ⟨?_, ?_⟩
    · intro j
      rw [plan, Action.count_attempts, Action.due_le_iff _ _ _ _ running positive]
    · intro before after split
      obtain ⟨polls, countdowns, draws⟩ := Action.before_attempt _ _ limit positive before after split
      refine ⟨polls, by omega, by omega, ?_⟩
      intro going went
      obtain ⟨frames, cycles⟩ := Console.follow_counts h.opening going before went
      have none : h.opening.frames.length = 0 := rfl
      refine ⟨by omega, cycles, ?_⟩
      rw [split, Console.follow_append, went]
      rfl

def sparse : Host Script Recorder where
  config := { instructionsPerSecond := 2, timerHz := 3 }
  machine := Machine.fresh .lenient (.ofSeed 0)
  input := ⟨List.replicate 3 (.keys [])⟩
  display := {}

theorem sparse_run_follows_plan :
    (sparse.run 3).2 = (sparse.opening.follow (sparse.plan 3)).2 ∧ (sparse.run 3).1.cycles = 2 ∧
      ∃ before after, sparse.plan 3 = before ++ .attempt :: after ∧ before.count .attempt = 1 ∧
        before.count .poll = 3 ∧ before.count .draw = 2 := by
  have bound : sparse.rate + sparse.tickRate ≤ 2 ^ 32 := by decide
  have running : 0 < sparse.rate := by decide
  have split : sparse.plan 3 =
      (Action.round 0 ++ Action.round 1 ++ [.poll]) ++ .attempt :: [.countdown, .draw] := rfl
  obtain ⟨⟨verdict, _, cycles, _⟩, _, timed⟩ := run_follows_plan sparse 3 bound
  obtain ⟨polls, _, draws, _⟩ := (timed running).2 _ _ split
  refine ⟨verdict, ?_, _, _, split, rfl, ?_, ?_⟩
  · rw [cycles]
    rfl
  · rw [polls]
    rfl
  · rw [draws]
    rfl

end Host

end Chip8
