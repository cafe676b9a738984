import Chip8.Machine.Operation

set_option autoImplicit false

namespace Chip8.Machine

theorem after_cons (m : Machine) (operation : Operation) (rest : List Operation) :
    m.after (operation :: rest) = (m.perform operation).machine.after rest := rfl

def answers (m : Machine) : List Operation → List (Except Failure (List UInt8))
  | [] => []
  | operation :: rest => (m.perform operation).result :: (m.perform operation).machine.answers rest

def Throughout (suits : Machine → Operation → Prop) (m : Machine) : List Operation → Prop
  | [] => True
  | operation :: rest => suits m operation ∧ (m.perform operation).machine.Throughout suits rest

instance decideThroughout (suits : Machine → Operation → Prop) [∀ m operation, Decidable (suits m operation)] :
    (m : Machine) → (history : List Operation) → Decidable (m.Throughout suits history)
  | _, [] => inferInstanceAs (Decidable True)
  | m, operation :: rest =>
      have := decideThroughout suits (m.perform operation).machine rest
      inferInstanceAs (Decidable (_ ∧ _))

theorem after_keeps (kept : Machine → Prop) (history : List Operation)
    (each : ∀ m, ∀ operation ∈ history, kept m → kept (m.perform operation).machine) (m : Machine) (start : kept m) :
    kept (m.after history) := by
  induction history generalizing m with
  | nil => exact start
  | cons operation rest ih =>
      rw [after_cons]
      apply ih
      · intro other later member
        exact each other later (List.mem_cons_of_mem operation member)
      · exact each m operation List.mem_cons_self start

def Reachable (m : Machine) : Prop :=
  ∃ config entropy history, m = (ofConfig config entropy).after history

theorem change_memory_machine (m : Machine) (operation : Memory.Operation) :
    (m.changeMemory operation).machine = { m with memory := (m.memory.perform operation).1 } := by
  rw [changeMemory]
  cases m.memory.perform operation with
  | mk memory performed => cases performed <;> rfl

end Chip8.Machine
