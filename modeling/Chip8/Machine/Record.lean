import Chip8.Instruction.Text
import Chip8.Machine.Dump
import Chip8.Memory.Operation

set_option autoImplicit false

namespace Chip8.Machine

inductive Record where
  | memory (notice : Memory.Notice)
  | wasReset
  | executing (pc : UInt16) (word : Word)
  | unknownOpcode (word : Word)
  | fault (pc : UInt16) (source : Failure) (left : Machine)
deriving DecidableEq

def Record.entry : Record → LogEntry
  | memory notice => notice.entry
  | wasReset => ⟨.debug, "interpreter reset"⟩
  | executing pc word =>
      ⟨.trace, Text.lowerHex 4 pc.toNat ++ ": " ++ word.text ++ " " ++ (Instruction.decode word).text⟩
  | unknownOpcode word => ⟨.debug, "ignoring unknown opcode " ++ Text.lowerHex 4 word.toNat⟩
  | fault pc source left =>
      ⟨.error, "fault at 0x" ++ Text.lowerHex 4 pc.toNat ++ ": " ++ source.message ++ "\n" ++ left.coreDump⟩

end Chip8.Machine
