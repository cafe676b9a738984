import Chip8.Proofs.Machine.Fault

set_option autoImplicit false

namespace Chip8.Machine

structure StepTaken where
  pc : UInt16
  -- Nothing if the fetch fails.
  word : Option Word
  result : Except Failure Unit

def stepOf (m : Machine) : Operation → List StepTaken
  | .step => [⟨m.pc, m.fetchedWord, m.step.result⟩]
  | _ => []

def stepsTaken (m : Machine) : List Operation → List StepTaken
  | [] => []
  | operation :: rest => m.stepOf operation ++ (m.perform operation).machine.stepsTaken rest

theorem step_of_mem (m : Machine) (operation : Operation) (taken : StepTaken) (member : taken ∈ m.stepOf operation) :
    operation = .step ∧ taken = ⟨m.pc, m.fetchedWord, m.step.result⟩ := by
  cases operation with
  | step => exact ⟨rfl, List.mem_singleton.mp member⟩
  | _ => exact absurd member List.not_mem_nil

end Chip8.Machine
