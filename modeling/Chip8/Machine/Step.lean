import Chip8.Machine.Execute
import Chip8.Machine.Record

set_option autoImplicit false

namespace Chip8.Machine

structure Outcome (α : Type) where
  result : Except Failure α
  machine : Machine
  records : List Record

def Outcome.map {α β : Type} (f : α → β) (outcome : Outcome α) : Outcome β :=
  ⟨outcome.result.map f, outcome.machine, outcome.records⟩

def instructionRecords (m : Machine) : Instruction → List Record
  | .storeBcd _ => (m.memory.mode.droppedCells m.index 3).map fun cell => .memory (.dropped cell)
  | .storeRegs x => (m.memory.mode.droppedCells m.index (x.val + 1)).map fun cell => .memory (.dropped cell)
  | .unknown word => [.unknownOpcode word]
  | _ => []

def advance (m : Machine) (word : Word) : Machine :=
  { m with lastOpcode := word, pc := m.pc + 2 }

def step (m : Machine) : Outcome Unit :=
  match m.memory.fetch m.pc with
  | .error source => ⟨.error (.malformedProgram m.pc 0 source), m, [.fault m.pc source m]⟩
  | .ok word =>
      let instruction := Instruction.decode word
      match execute (m.advance word) instruction with
      | (left, .error source) =>
          let restored := { left with pc := m.pc }
          ⟨.error (.malformedProgram m.pc word source), restored,
            [.executing m.pc word, .fault m.pc source restored]⟩
      | (after, .ok _) => ⟨.ok (), after, .executing m.pc word :: m.instructionRecords instruction⟩

end Chip8.Machine
