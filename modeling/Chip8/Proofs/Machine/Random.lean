import Chip8.Proofs.Machine.Refit
import Chip8.Proofs.Machine.StepsTaken

set_option autoImplicit false

namespace Chip8

def RandomStream.skip (stream : RandomStream) (count : Nat) : RandomStream :=
  { stream with position := stream.position + count }

theorem Random.word_of_block (seed : UInt64) (number place : Nat) (inside : place < 16) :
    word seed (16 * number + place) = (block (key seed) (UInt64.ofNat number)).get (Nibble.low place) := by
  have sameBlock : (16 * number + place) / 16 = number := by omega
  have samePlace : Nibble.low (16 * number + place) = Nibble.low place := by
    apply Fin.ext
    change (16 * number + place) % 16 = place % 16
    omega
  rw [word, wordOf, sameBlock, samePlace]

namespace Machine

def withRandom (m : Machine) (random : RandomStream) : Machine :=
  { m with random := random }

-- A record of a fault holds the machine, random stream included; what is logged of it does not tell.
theorem entry_with_random (random : RandomStream) (record : Record) :
    (record.refit id id fun _ => random).entry = record.entry := by
  cases record <;> rfl

theorem step_with_random (m : Machine) (random : RandomStream) (other : ¬ m.FetchesRandom) :
    (m.withRandom random).step.result = m.step.result ∧
      (m.withRandom random).step.machine = m.step.machine.withRandom random ∧
      (m.withRandom random).step.records.map Record.entry = m.step.records.map Record.entry := by
  have refitted : m.withRandom random = m.refit id id fun _ => random := rfl
  rw [refitted, step_refit m id id (fun _ => random) (fun _ => rfl) (fun _ => rfl) (fun fetches => absurd fetches other)]
  refine ⟨rfl, rfl, ?_⟩
  rw [List.map_map]
  exact List.map_congr_left fun record _ => entry_with_random random record

theorem step_keeps_random (m : Machine) (other : ¬ m.FetchesRandom) : m.step.machine.random = m.random := by
  have same : m.step.machine = m.step.machine.withRandom m.random := (step_with_random m m.random other).2.1
  rw [same]
  rfl

theorem step_random (m : Machine) (word : Word) (fetched : m.fetchedWord = some word)
    (family : word.toNat / 4096 = 0xC) :
    m.step.result = .ok () ∧
      m.step.machine = { (m.advance word).setRegister (Word.x word) (m.random.byte &&& Word.kk word) with
        random := m.random.next } := by
  have executed : execute (m.advance word) (Instruction.decode word) =
      ({ (m.advance word).setRegister (Word.x word) (m.random.byte &&& Word.kk word) with
        random := m.random.next }, .ok ()) := by
    rw [Instruction.decode_random word family]
    rfl
  rw [step_done m _ word ((fetched_word_iff m word).mp fetched) executed]
  exact ⟨rfl, rfl⟩

def StepTaken.isRandom (taken : StepTaken) : Bool :=
  match taken.result with
  | .ok _ => taken.word.any fun word => word.toNat / 4096 == 0xC
  | .error _ => false

def randoms (steps : List StepTaken) : Nat :=
  steps.countP StepTaken.isRandom

theorem randoms_append (first second : List StepTaken) : randoms (first ++ second) = randoms first + randoms second :=
  List.countP_append

theorem randoms_step (m : Machine) (random : m.FetchesRandom) : randoms (m.stepOf .step) = 1 := by
  obtain ⟨word, fetched, family⟩ := random
  have done := (step_random m word fetched family).1
  simp [randoms, stepOf, StepTaken.isRandom, done, fetched, family]

theorem randoms_other_step (m : Machine) (other : ¬ m.FetchesRandom) : randoms (m.stepOf .step) = 0 := by
  rw [randoms, stepOf, List.countP_eq_zero]
  intro taken member random
  obtain rfl := List.mem_singleton.mp member
  revert random
  cases result : m.step.result with
  | error failure => simp [StepTaken.isRandom]
  | ok =>
      intro random
      obtain ⟨word, fetched, family⟩ := (Option.any_eq_true _ _).mp random
      exact other ⟨word, fetched, by simpa using family⟩

theorem perform_random (m : Machine) (operation : Operation) :
    (m.perform operation).machine.random = m.random.skip (randoms (m.stepOf operation)) := by
  cases operation with
  | step =>
      by_cases random : m.FetchesRandom
      · rw [randoms_step m random]
        obtain ⟨word, fetched, family⟩ := random
        exact congrArg Machine.random (step_random m word fetched family).2
      · rw [randoms_other_step m random]
        exact step_keeps_random m random
  | memory operation =>
      rw [perform, change_memory_machine]
      rfl
  | _ => rfl

theorem after_random (m : Machine) (history : List Operation) :
    (m.after history).random = m.random.skip (randoms (m.stepsTaken history)) := by
  induction history generalizing m with
  | nil => rfl
  | cons operation rest ih =>
      rw [after_cons, ih, perform_random, stepsTaken, randoms_append, RandomStream.skip, RandomStream.skip,
        RandomStream.skip, Nat.add_assoc]

-- Made with the seed, the machine has executed Cxkk so many times since then, whatever else was done to it.
def ExecutedRandoms (seed : UInt64) (count : Nat) (m : Machine) : Prop :=
  ∃ (config : Config) (entropy : Random.Key) (history : List Operation),
    m = (ofConfig (config.withSeed seed) entropy).after history ∧
      randoms ((ofConfig (config.withSeed seed) entropy).stepsTaken history) = count

theorem executed_randoms_random (seed : UInt64) (count : Nat) (m : Machine) (executed : m.ExecutedRandoms seed count) :
    m.random = ⟨Random.key seed, count⟩ := by
  obtain ⟨config, entropy, history, rfl, rfl⟩ := executed
  rw [after_random, RandomStream.skip]
  exact congrArg (RandomStream.mk (Random.key seed)) (Nat.zero_add _)

theorem random_byte_to_nat (seed : UInt64) (count : Nat) (word : Word) :
    (RandomStream.byte ⟨Random.key seed, count⟩ &&& Word.kk word).toNat =
      (Random.word seed count).toNat % 256 &&& word.toNat % 256 := by
  rw [UInt8.toNat_and, Word.kk_to_nat]
  rfl

theorem random_bytes_in_stream_order (seed : UInt64) (count : Nat) (m : Machine) (executed : m.ExecutedRandoms seed count) :
    m.random = ⟨Random.key seed, count⟩ ∧
    (∀ word, m.fetchedWord = some word → word.toNat / 4096 = 0xC →
      m.step.result = .ok () ∧
      (m.step.machine.register (Word.x word)).toNat =
        (Random.word seed count).toNat % 256 &&& word.toNat % 256 ∧
      m.step.machine.random = ⟨Random.key seed, count + 1⟩) ∧
    (∀ operation, (operation = .step → ∀ word, m.fetchedWord = some word → word.toNat / 4096 ≠ 0xC) →
      (m.perform operation).machine.random = m.random) ∧
    (∀ number place, place < 16 → count = 16 * number + place →
      Random.word seed count = (Random.block (Random.key seed) (UInt64.ofNat number)).get (Nibble.low place)) := by
  have stream := executed_randoms_random seed count m executed
  refine ⟨stream, ?_, ?_, ?_⟩
  · intro word fetched family
    obtain ⟨done, left⟩ := step_random m word fetched family
    rw [left, stream]
    refine ⟨done, ?_, rfl⟩
    rw [← random_byte_to_nat]
    exact congrArg UInt8.toNat (Bank.get_set_self m.registers (Word.x word) _)
  · intro operation others
    have none : randoms (m.stepOf operation) = 0 := by
      cases operation with
      | step => exact randoms_other_step m fun ⟨word, fetched, family⟩ => others rfl word fetched family
      | _ => rfl
    rw [perform_random, none]
    rfl
  · intro number place inside same
    rw [same]
    exact Random.word_of_block seed number place inside

def thirdByte : Machine :=
  (ofConfig ({ mode := .strict : Config }.withSeed 42) (Random.key 0)).after
    [.memory (.load [0xC0, 0xFF, 0xC1, 0x00, 0x00, 0xEE]), .step, .step, .step, .tick, .reset,
      .memory (.load [0xC2, 0x3F])]

theorem third_byte_handed_out :
    thirdByte.ExecutedRandoms 42 2 ∧ thirdByte.step.machine.register 2 = 0x3D ∧
      thirdByte.step.machine.random = ⟨Random.key 42, 3⟩ ∧
      (thirdByte.perform .tick).machine.random = ⟨Random.key 42, 2⟩ := by
  have executed : thirdByte.ExecutedRandoms 42 2 := ⟨{ mode := .strict }, Random.key 0, _, rfl, by decide +kernel⟩
  obtain ⟨stream, draws, others, _⟩ := random_bytes_in_stream_order 42 2 thirdByte executed
  obtain ⟨_, byte, left⟩ := draws 0xC23F (by decide +kernel) rfl
  have third : (Random.word 42 2).toNat % 256 = 0x7D := by decide +kernel
  rw [third] at byte
  refine ⟨executed, UInt8.toNat_inj.mp byte, left, (others .tick ?_).trans stream⟩
  intro step
  cases step

end Machine

end Chip8
