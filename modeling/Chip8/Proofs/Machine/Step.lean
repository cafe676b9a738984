import Chip8.Machine.Step
import Chip8.Proofs.Instruction.Decode
import Chip8.Proofs.Memory.Access

set_option autoImplicit false

namespace Chip8.Machine

theorem store_refused (m : Machine) (bytes : List UInt8) (failure : Failure)
    (refused : (m.store bytes).2 = .error failure) : (m.store bytes).1 = m := by
  have same := Memory.write_refused m.memory m.index bytes failure refused
  change { m with memory := (m.memory.write m.index bytes).1 } = m
  rw [same]

theorem store_error_iff (m : Machine) (bytes : List UInt8) (failure : Failure) :
    (m.store bytes).2 = .error failure ↔ m.memory.mode = .strict ∧
      ∃ addr, Memory.FirstOutside Memory.Writable m.index bytes.length addr ∧ failure = .outOfRange addr :=
  Memory.write_error_iff m.memory m.index bytes failure

theorem length_stored (m : Machine) (x : Nibble) : (m.registers.toList.take (x.val + 1)).length = x.val + 1 := by
  have bound : x.val < 16 := x.isLt
  simp only [Bank.toList, Nibble.all, List.length_take, List.length_map, List.length_range]
  omega

def Refuses (m : Machine) (instruction : Instruction) (failure : Failure) : Prop :=
  instruction = .ret ∧ m.stack = [] ∧ failure = .stackUnderflow ∨
  instruction.IsCall ∧ stackDepth ≤ m.stack.length ∧ failure = .stackOverflow ∨
  m.memory.mode = .strict ∧ ∃ addr,
    (Memory.FirstOutside Memory.Readable m.index instruction.reads addr ∨
      Memory.FirstOutside Memory.Writable m.index instruction.writes addr) ∧ failure = .outOfRange addr

theorem draw_error_iff (m : Machine) (x y n : Nibble) (failure : Failure) :
    (execute m (.draw x y n)).2 = .error failure ↔ m.memory.read m.index n.val = .error failure := by
  simp only [execute]
  cases m.memory.read m.index n.val <;> simp [done]

theorem load_registers_error_iff (m : Machine) (x : Nibble) (failure : Failure) :
    (execute m (.loadRegs x)).2 = .error failure ↔ m.memory.read m.index (x.val + 1) = .error failure := by
  simp only [execute]
  cases m.memory.read m.index (x.val + 1) <;> simp [done]

theorem execute_error_iff (m : Machine) (instruction : Instruction) (failure : Failure) :
    (execute m instruction).2 = .error failure ↔ m.Refuses instruction failure := by
  cases instruction with
  | ret =>
      cases stack : m.stack <;>
        simp [execute, done, stack, Refuses, Instruction.IsCall, Instruction.reads, Instruction.writes,
          Memory.first_outside_zero, eq_comm]
  | call nnn =>
      by_cases room : m.stack.length < stackDepth
      · have shallow : ¬ stackDepth ≤ m.stack.length := Nat.not_le.mpr room
        simp [execute, done, room, shallow, Refuses, Instruction.reads, Instruction.writes,
          Memory.first_outside_zero]
      · have deep : stackDepth ≤ m.stack.length := Nat.not_lt.mp room
        simp [execute, room, deep, Refuses, Instruction.IsCall, Instruction.reads, Instruction.writes,
          Memory.first_outside_zero, eq_comm]
  | draw x y n =>
      rw [draw_error_iff, Memory.read_error_iff]
      simp [Refuses, Instruction.IsCall, Instruction.reads, Instruction.writes, Memory.first_outside_zero]
  | loadRegs x =>
      rw [load_registers_error_iff, Memory.read_error_iff]
      simp [Refuses, Instruction.IsCall, Instruction.reads, Instruction.writes, Memory.first_outside_zero]
  | storeBcd x =>
      rw [execute, store_error_iff]
      simp [Refuses, Instruction.IsCall, Instruction.reads, Instruction.writes, Memory.first_outside_zero,
        decimalDigits]
  | storeRegs x =>
      rw [execute, store_error_iff, length_stored]
      simp [Refuses, Instruction.IsCall, Instruction.reads, Instruction.writes, Memory.first_outside_zero]
  | waitKey x =>
      cases key : m.keypad.first <;>
        simp [execute, done, key, Refuses, Instruction.IsCall, Instruction.reads, Instruction.writes,
          Memory.first_outside_zero]
  | _ =>
      simp [execute, done, Refuses, Instruction.IsCall, Instruction.reads, Instruction.writes,
        Memory.first_outside_zero]

theorem execute_refused (m : Machine) (instruction : Instruction) (failure : Failure)
    (refused : (execute m instruction).2 = .error failure) : (execute m instruction).1 = m := by
  cases instruction with
  | ret =>
      revert refused
      cases stack : m.stack <;> simp [execute, done, stack]
  | call nnn =>
      revert refused
      by_cases room : m.stack.length < stackDepth <;> simp [execute, done, room]
  | draw x y n =>
      have unread := (draw_error_iff m x y n failure).mp refused
      simp only [execute, unread]
  | loadRegs x =>
      have unread := (load_registers_error_iff m x failure).mp refused
      simp only [execute, unread]
  | storeBcd x => exact store_refused m _ failure refused
  | storeRegs x => exact store_refused m _ failure refused
  | waitKey x =>
      revert refused
      cases key : m.keypad.first <;> simp [execute, done, key]
  | _ => simp [execute, done] at refused

-- The three ways of a step. Later arguments about steps split into these cases and open no more of the step.
theorem step_unfetched (m : Machine) (source : Failure) (unfetched : m.memory.fetch m.pc = .error source) :
    m.step = ⟨.error (.malformedProgram m.pc 0 source), m, [.fault m.pc source m]⟩ := by
  rw [step, unfetched]

theorem step_refused (m : Machine) (word : Word) (source : Failure) (fetched : m.memory.fetch m.pc = .ok word)
    (refused : (execute (m.advance word) (Instruction.decode word)).2 = .error source) :
    m.step = ⟨.error (.malformedProgram m.pc word source), { m with lastOpcode := word },
      [.executing m.pc word, .fault m.pc source { m with lastOpcode := word }]⟩ := by
  have unchanged := execute_refused (m.advance word) (Instruction.decode word) source refused
  have effect : execute (m.advance word) (Instruction.decode word) = (m.advance word, .error source) :=
    Prod.ext unchanged refused
  simp only [step, fetched, effect]
  rfl

theorem step_done (m after : Machine) (word : Word) (fetched : m.memory.fetch m.pc = .ok word)
    (executed : execute (m.advance word) (Instruction.decode word) = (after, .ok ())) :
    m.step = ⟨.ok (), after, .executing m.pc word :: m.instructionRecords (Instruction.decode word)⟩ := by
  simp only [step, fetched, executed]

inductive StepWay (m : Machine) : Prop where
  | unfetched (source : Failure) (unfetched : m.memory.fetch m.pc = .error source)
  | refused (word : Word) (source : Failure) (fetched : m.memory.fetch m.pc = .ok word)
      (refused : (execute (m.advance word) (Instruction.decode word)).2 = .error source)
  | done (word : Word) (after : Machine) (fetched : m.memory.fetch m.pc = .ok word)
      (executed : execute (m.advance word) (Instruction.decode word) = (after, .ok ()))

theorem step_way (m : Machine) : StepWay m := by
  cases fetched : m.memory.fetch m.pc with
  | error source => exact .unfetched source fetched
  | ok word =>
      cases effect : execute (m.advance word) (Instruction.decode word) with
      | mk left result =>
          cases result with
          | error source => exact .refused word source fetched (by rw [effect])
          | ok => exact .done word left fetched effect

end Chip8.Machine
