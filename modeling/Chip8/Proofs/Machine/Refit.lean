import Chip8.Proofs.Machine.Fault

set_option autoImplicit false

namespace Chip8.Machine

def refit (m : Machine) (timer : UInt8 → UInt8) (keys : Keypad → Keypad)
    (stream : RandomStream → RandomStream) : Machine :=
  { m with delay := timer m.delay, sound := timer m.sound, keypad := keys m.keypad, random := stream m.random }

theorem skip_refit (m : Machine) (timer : UInt8 → UInt8) (keys : Keypad → Keypad)
    (stream : RandomStream → RandomStream) (condition : Bool) :
    (m.refit timer keys stream).skipIf condition = (m.skipIf condition).refit timer keys stream := by
  cases condition <;> rfl

-- What the instruction looks at is unchanged; it then finds the same values and leaves the changed ones alone.
theorem execute_refit (m : Machine) (timer : UInt8 → UInt8) (keys : Keypad → Keypad)
    (stream : RandomStream → RandomStream) (instruction : Instruction)
    (timers : instruction.peripheral = some .timers → timer = id)
    (keypad : instruction.peripheral = some .keypad → keys = id)
    (random : instruction.IsRandom → stream = id) :
    execute (m.refit timer keys stream) instruction =
      ((execute m instruction).1.refit timer keys stream, (execute m instruction).2) := by
  cases instruction with
  | ret =>
      cases stack : m.stack <;> simp [execute, done, refit, stack]
  | call nnn =>
      by_cases room : m.stack.length < stackDepth <;> simp [execute, done, refit, room]
  | skipEqImm | skipNeImm | skipEqReg | skipNeReg => exact Prod.ext (skip_refit m timer keys stream _) rfl
  | skipKeyDown x =>
      obtain rfl := keypad rfl
      exact Prod.ext (skip_refit m timer id stream _) rfl
  | skipKeyUp x =>
      obtain rfl := keypad rfl
      exact Prod.ext (skip_refit m timer id stream _) rfl
  | waitKey x =>
      obtain rfl := keypad rfl
      cases first : m.keypad.first <;> simp [execute, done, refit, setRegister, first]
  | loadDelay x =>
      obtain rfl := timers rfl
      rfl
  | setDelay x =>
      obtain rfl := timers rfl
      rfl
  | setSound x =>
      obtain rfl := timers rfl
      rfl
  | random x kk =>
      obtain rfl := random ⟨x, kk, rfl⟩
      rfl
  | draw x y n =>
      cases rows : m.memory.read m.index n.val <;>
        simp [execute, done, refit, setRegister, register, rows]
  | loadRegs x =>
      cases bytes : m.memory.read m.index (x.val + 1) <;>
        simp [execute, done, refit, setRegisters, register, bytes]
  | _ => rfl

def Record.refit (timer : UInt8 → UInt8) (keys : Keypad → Keypad) (stream : RandomStream → RandomStream) :
    Record → Record
  | .fault pc source left => .fault pc source (left.refit timer keys stream)
  | .memory notice => .memory notice
  | .wasReset => .wasReset
  | .executing pc word => .executing pc word
  | .unknownOpcode word => .unknownOpcode word

theorem instruction_records_refit (m : Machine) (timer : UInt8 → UInt8) (keys : Keypad → Keypad)
    (stream : RandomStream → RandomStream) (instruction : Instruction) :
    (m.refit timer keys stream).instructionRecords instruction =
      (m.instructionRecords instruction).map (Record.refit timer keys stream) := by
  cases instruction with
  | storeBcd x =>
      rw [instructionRecords, instructionRecords, List.map_map]
      rfl
  | storeRegs x =>
      rw [instructionRecords, instructionRecords, List.map_map]
      rfl
  | _ => rfl

def FetchesRandom (m : Machine) : Prop :=
  ∃ word, m.fetchedWord = some word ∧ word.toNat / 4096 = 0xC

theorem step_refit (m : Machine) (timer : UInt8 → UInt8) (keys : Keypad → Keypad)
    (stream : RandomStream → RandomStream)
    (timers : m.fetchedWord.bind Word.peripheral = some .timers → timer = id)
    (keypad : m.fetchedWord.bind Word.peripheral = some .keypad → keys = id)
    (random : m.FetchesRandom → stream = id) :
    (m.refit timer keys stream).step =
      ⟨m.step.result, m.step.machine.refit timer keys stream,
        m.step.records.map (Record.refit timer keys stream)⟩ := by
  have executes : ∀ word, m.memory.fetch m.pc = .ok word →
      execute ((m.refit timer keys stream).advance word) (Instruction.decode word) =
        ((execute (m.advance word) (Instruction.decode word)).1.refit timer keys stream,
          (execute (m.advance word) (Instruction.decode word)).2) := by
    intro word fetched
    have found := (fetched_word_iff m word).mpr fetched
    have looked : m.fetchedWord.bind Word.peripheral = (Instruction.decode word).peripheral := by
      rw [found, Instruction.decode_peripheral, Option.bind_some]
    rw [looked] at timers keypad
    have draws : (Instruction.decode word).IsRandom → stream = id := by
      rw [Instruction.decode_random_iff]
      exact fun family => random ⟨word, found, family⟩
    exact execute_refit (m.advance word) timer keys stream _ timers keypad draws
  cases m.step_way with
  | unfetched source unfetched =>
      rw [step_unfetched m source unfetched, step_unfetched (m.refit timer keys stream) source unfetched]
      rfl
  | refused word source fetched refused =>
      have refusedToo := (congrArg Prod.snd (executes word fetched)).trans refused
      rw [step_refused m word source fetched refused,
        step_refused (m.refit timer keys stream) word source fetched refusedToo]
      rfl
  | done word after fetched executed =>
      have executedToo := executes word fetched
      rw [executed] at executedToo
      rw [step_done m after word fetched executed,
        step_done (m.refit timer keys stream) _ word fetched executedToo, instruction_records_refit]
      rfl

end Chip8.Machine
