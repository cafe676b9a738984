import Chip8.Log
import Chip8.Memory.Program
import Chip8.Text.Hex

set_option autoImplicit false

namespace Chip8.Memory

inductive Notice where
  | loaded (size : Nat)
  | dropped (cell : Cell)
deriving DecidableEq, Repr

def Notice.entry : Notice → LogEntry
  | loaded size => ⟨.debug, "loaded " ++ toString size ++ " byte program at 0x" ++ Text.lowerHex 4 programStart⟩
  | dropped cell => ⟨.warn, "dropping write to glyph memory at 0x" ++ Text.lowerHex 4 cell.val⟩

inductive Operation where
  | load (program : List UInt8)
  | loadFrom (deliveries : List Delivery)
  | writeByte (addr : UInt16) (byte : UInt8)
  | write (start : UInt16) (data : List UInt8)
  | reset
deriving DecidableEq, Repr

def performLoad (m : Memory) (program : List UInt8) : Memory × Except Failure (List Notice) :=
  let (memory, loaded) := m.load program
  (memory, loaded.map fun _ => [.loaded program.length])

def perform (m : Memory) : Operation → Memory × Except Failure (List Notice)
  | .load program => m.performLoad program
  | .loadFrom deliveries =>
      match image deliveries with
      | .error failure => (m, .error failure)
      | .ok program => m.performLoad program
  | .writeByte addr byte =>
      let (memory, written) := m.writeByte addr byte
      (memory, written.map fun _ => (m.mode.droppedCells addr 1).map .dropped)
  | .write start data =>
      let (memory, written) := m.write start data
      (memory, written.map fun _ => (m.mode.droppedCells start data.length).map .dropped)
  | .reset => (m.reset, .ok [])

end Chip8.Memory
