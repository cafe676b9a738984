import Chip8.Proofs.Machine.History
import Chip8.Proofs.Machine.Step
import Chip8.Proofs.Memory.Shielded

set_option autoImplicit false

namespace Chip8.Machine

def stored (m : Machine) : Instruction → List UInt8
  | .storeBcd x => decimalDigits (m.register x)
  | .storeRegs x => m.registers.toList.take (x.val + 1)
  | _ => []

theorem execute_memory (m : Machine) (instruction : Instruction) :
    (execute m instruction).1.memory = (m.memory.write m.index (m.stored instruction)).1 := by
  cases instruction with
  | ret =>
      simp only [execute]
      cases m.stack <;> rfl
  | call nnn =>
      simp only [execute]
      split <;> rfl
  | draw x y n =>
      simp only [execute]
      cases m.memory.read m.index n.val <;> rfl
  | loadRegs x =>
      simp only [execute]
      cases m.memory.read m.index (x.val + 1) <;> rfl
  | waitKey x =>
      simp only [execute]
      cases m.keypad.first <;> rfl
  | skipEqImm | skipNeImm | skipEqReg | skipNeReg | skipKeyDown | skipKeyUp =>
      simp only [execute, done, skipIf]
      split <;> rfl
  | _ => rfl

theorem step_memory (m : Machine) :
    m.step.machine.memory = m.memory ∨ ∃ bytes, m.step.machine.memory = (m.memory.write m.index bytes).1 := by
  cases m.step_way with
  | unfetched source unfetched =>
      left
      rw [step_unfetched m source unfetched]
  | refused word source fetched refused =>
      left
      rw [step_refused m word source fetched refused]
  | done word after fetched executed =>
      right
      have written := execute_memory (m.advance word) (Instruction.decode word)
      rw [executed] at written
      refine ⟨(m.advance word).stored (Instruction.decode word), ?_⟩
      rw [step_done m after word fetched executed]
      exact written

theorem step_mode (m : Machine) : m.step.machine.memory.mode = m.memory.mode := by
  rcases step_memory m with same | ⟨bytes, written⟩
  · rw [same]
  · rw [written]
    exact Memory.write_mode m.memory m.index bytes

theorem perform_mode (m : Machine) (operation : Operation) :
    (m.perform operation).machine.memory.mode = m.memory.mode := by
  cases operation with
  | step => exact step_mode m
  | memory operation =>
      rw [perform, change_memory_machine]
      exact Memory.perform_mode m.memory operation
  | _ => rfl

theorem after_mode (m : Machine) (history : List Operation) :
    (m.after history).memory.mode = m.memory.mode :=
  after_keeps (fun machine => machine.memory.mode = m.memory.mode) history
    (fun machine operation _ same => (perform_mode machine operation).trans same) m rfl

theorem perform_holds_initial (area : Memory.Cell → Prop) (m : Machine) (operation : Operation)
    (shielded : Memory.Shielded m.memory.mode area) (holds : m.memory.HoldsInitial area) :
    (m.perform operation).machine.memory.HoldsInitial area := by
  cases operation with
  | step =>
      change m.step.machine.memory.HoldsInitial area
      rcases step_memory m with same | ⟨bytes, written⟩
      · rw [same]
        exact holds
      · rw [written]
        exact Memory.write_holds_initial area m.memory m.index bytes shielded holds
  | reset => exact Memory.fresh_holds_initial area m.memory.mode
  | memory operation =>
      rw [perform, change_memory_machine]
      exact Memory.perform_holds_initial area m.memory operation shielded holds
  | _ => exact holds

theorem after_holds_initial (area : Memory.Cell → Prop) (m : Machine) (history : List Operation)
    (shielded : Memory.Shielded m.memory.mode area) (holds : m.memory.HoldsInitial area) :
    (m.after history).memory.HoldsInitial area := by
  induction history generalizing m with
  | nil => exact holds
  | cons operation rest ih =>
      rw [after_cons]
      apply ih
      · rw [perform_mode]
        exact shielded
      · exact perform_holds_initial area m operation shielded holds

end Chip8.Machine
