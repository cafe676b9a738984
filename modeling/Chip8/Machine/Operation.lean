import Chip8.Machine.Step

set_option autoImplicit false

namespace Chip8.Machine

inductive Operation where
  | step
  | tick
  | key (key : UInt8) (down : Bool)
  | releaseKeys
  | reset
  | memory (operation : Memory.Operation)
  | read (start : UInt16) (count : Nat)
deriving DecidableEq, Repr

def changeMemory (m : Machine) (operation : Memory.Operation) : Outcome (List UInt8) :=
  let (memory, performed) := m.memory.perform operation
  let left := { m with memory := memory }
  match performed with
  | .error failure => ⟨.error failure, left, []⟩
  | .ok notices => ⟨.ok [], left, notices.map .memory⟩

def perform (m : Machine) : Operation → Outcome (List UInt8)
  | .step => m.step.map fun _ => []
  | .tick => ⟨.ok [], m.tick, []⟩
  | .key key down => ⟨.ok [], m.setKey key down, []⟩
  | .releaseKeys => ⟨.ok [], m.releaseKeys, []⟩
  | .reset => ⟨.ok [], m.reset, [.wasReset]⟩
  | .memory operation => m.changeMemory operation
  | .read start count => ⟨m.memory.read start count, m, []⟩

def after (m : Machine) (history : List Operation) : Machine :=
  history.foldl (fun machine operation => (machine.perform operation).machine) m

end Chip8.Machine
