import Chip8.Proofs.Machine.Random
import Chip8.Proofs.Machine.Store

set_option autoImplicit false

namespace Chip8.Machine

-- What can be seen of an operation: what it returns and logs, and the machine it leaves, its random stream covered.
structure Observation where
  answer : Except Failure (List UInt8)
  entries : List LogEntry
  left : Machine

def observe (m : Machine) (operation : Operation) : Observation where
  answer := (m.perform operation).result
  entries := (m.perform operation).records.map Record.entry
  left := (m.perform operation).machine.withRandom (RandomStream.ofSeed 0)

def observed (m : Machine) : List Operation → List Observation
  | [] => []
  | operation :: rest => m.observe operation :: (m.perform operation).machine.observed rest

theorem perform_with_random (m : Machine) (random : RandomStream) (operation : Operation)
    (other : operation = .step → ¬ m.FetchesRandom) :
    (m.withRandom random).observe operation = m.observe operation ∧
      ((m.withRandom random).perform operation).machine = (m.perform operation).machine.withRandom random := by
  cases operation with
  | step =>
      obtain ⟨result, left, entries⟩ := step_with_random m random (other rfl)
      refine ⟨?_, left⟩
      simp only [observe, perform, Outcome.map, result, left, entries]
      rfl
  | memory operation =>
      rw [observe, observe, perform, perform, change_memory_machine, change_memory_machine, changeMemory, changeMemory]
      refine ⟨?_, rfl⟩
      have same : (m.withRandom random).memory = m.memory := rfl
      rw [same]
      cases m.memory.perform operation with
      | mk memory performed => cases performed <;> rfl
  | _ => exact ⟨rfl, rfl⟩

-- Whether a step executes Cxkk does not hang on what Cxkk hands out.
theorem step_of_with_random (m : Machine) (random : RandomStream) (operation : Operation) :
    (m.withRandom random).stepOf operation = m.stepOf operation := by
  cases operation with
  | step =>
      have result : (m.withRandom random).step.result = m.step.result := by
        by_cases draws : m.FetchesRandom
        · obtain ⟨word, fetched, family⟩ := draws
          rw [(step_random m word fetched family).1, (step_random (m.withRandom random) word fetched family).1]
        · exact (step_with_random m random draws).1
      rw [stepOf, stepOf, result]
      rfl
  | _ => rfl

theorem no_random_of_zero (m : Machine) (operation : Operation) (zero : randoms (m.stepOf operation) = 0) :
    operation = .step → ¬ m.FetchesRandom := by
  intro step random
  rw [step, randoms_step m random] at zero
  cases zero

theorem observed_with_random (m : Machine) (random : RandomStream) (history : List Operation)
    (zero : randoms (m.stepsTaken history) = 0) :
    (m.withRandom random).observed history = m.observed history ∧
      (m.withRandom random).after history = (m.after history).withRandom random := by
  induction history generalizing m with
  | nil => exact ⟨rfl, rfl⟩
  | cons operation rest ih =>
      rw [stepsTaken, randoms_append, Nat.add_eq_zero_iff] at zero
      obtain ⟨here, left⟩ := perform_with_random m random operation (no_random_of_zero m operation zero.1)
      obtain ⟨later, final⟩ := ih (m.perform operation).machine zero.2
      rw [observed, observed, here, left, later, after_cons, after_cons, left, final]
      exact ⟨rfl, rfl⟩

theorem reset_eq_fresh (m : Machine) : m.reset = fresh m.memory.mode m.random := rfl

theorem reset_of_made (config : Config) (entropy : Random.Key) (history : List Operation) :
    ((ofConfig config entropy).after history).reset =
      (ofConfig config entropy).withRandom ((ofConfig config entropy).after history).random := by
  rw [reset_eq_fresh, after_mode]
  rfl

theorem reset_of_mode (a b : Machine) (mode : a.memory.mode = b.memory.mode) :
    b.reset = a.reset.withRandom b.random := by
  rw [reset_eq_fresh, reset_eq_fresh, mode]
  rfl

theorem reset_forgets_all_but_random :
    (∀ (config : Config) (entropy : Random.Key) (history : List Operation),
      ((ofConfig config entropy).after history).reset =
        { ofConfig config entropy with random := ((ofConfig config entropy).after history).random }) ∧
    (∀ a b : Machine, a.memory.mode = b.memory.mode → ∀ future : List Operation,
      randoms (a.reset.stepsTaken future) = 0 →
      b.reset.observed future = a.reset.observed future ∧
      ∀ operation, (b.reset.after future).stepOf operation = (a.reset.after future).stepOf operation) ∧
    (∀ (seed : UInt64) (count : Nat) (a b : Machine), a.ExecutedRandoms seed count → b.ExecutedRandoms seed count →
      a.memory.mode = b.memory.mode → ∀ future : List Operation,
      b.reset.observed future = a.reset.observed future ∧ b.reset.after future = a.reset.after future) := by
  refine ⟨reset_of_made, ?_, ?_⟩
  · intro a b mode future zero
    obtain ⟨same, left⟩ := observed_with_random a.reset b.random future zero
    rw [reset_of_mode a b mode]
    refine ⟨same, ?_⟩
    intro operation
    rw [left, step_of_with_random]
  · intro seed count a b first second mode future
    have random : b.random = a.reset.random :=
      (executed_randoms_random seed count b second).trans (executed_randoms_random seed count a first).symm
    have same : b.reset = a.reset := by
      rw [reset_of_mode a b mode, random]
      rfl
    rw [same]
    exact ⟨rfl, rfl⟩

def worn : Machine :=
  (ofConfig (Config.withSeed {} 7) (Random.key 0)).after
    [.memory (.load [0xC0, 0xFF, 0xA1, 0x00, 0xF0, 0x55, 0x22, 0x06]), .step, .step, .step, .step, .key 5 true]

def unworn : Machine :=
  (ofConfig (Config.withSeed {} 7) (Random.key 1)).after [.memory (.load [0xC3, 0x00]), .step, .tick]

def session : List Operation :=
  [.memory (.load [0xF1, 0x0A, 0xC2, 0xFF]), .step, .key 9 true, .step]

theorem worn_machine_starts_anew :
    randoms (worn.reset.stepsTaken session) = 0 ∧
      (fresh .lenient (.ofSeed 0)).reset.observed session = worn.reset.observed session ∧
      (worn.reset.after session).register 1 = 9 ∧
      unworn.reset.observed (session ++ [.step]) = worn.reset.observed (session ++ [.step]) := by
  obtain ⟨_, alike, equal⟩ := reset_forgets_all_but_random
  have zero : randoms (worn.reset.stepsTaken session) = 0 := by decide +kernel
  have first : worn.ExecutedRandoms 7 1 := ⟨{}, Random.key 0, _, rfl, by decide +kernel⟩
  have second : unworn.ExecutedRandoms 7 1 := ⟨{}, Random.key 1, _, rfl, by decide +kernel⟩
  obtain ⟨same, _⟩ := alike worn (fresh .lenient (.ofSeed 0)) (by decide +kernel) session zero
  obtain ⟨whole, _⟩ := equal 7 1 worn unworn first second (by decide +kernel) (session ++ [.step])
  exact ⟨zero, same, by decide +kernel, whole⟩

end Chip8.Machine
