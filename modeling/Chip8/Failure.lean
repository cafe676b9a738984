import Chip8.IoError
import Chip8.Text.Hex

set_option autoImplicit false

namespace Chip8

inductive Failure where
  | programTooLarge (size limit : Nat)
  | outOfRange (addr : UInt16)
  | misalignedFetch (addr : UInt16)
  | stackOverflow
  | stackUnderflow
  | malformedProgram (pc opcode : UInt16) (source : Failure)
  | io (error : IoError)
deriving DecidableEq, Repr

namespace Failure

def hexAddress (addr : UInt16) : String :=
  "0x" ++ Text.upperHex 4 addr.toNat

def message : Failure → String
  | programTooLarge size limit =>
      "program is too large (" ++ toString size ++ " bytes), max size is " ++ toString limit ++ " bytes"
  | outOfRange addr => "memory access out of range at address " ++ hexAddress addr
  | misalignedFetch addr => "instruction fetch from odd address " ++ hexAddress addr
  | stackOverflow => "call stack overflow"
  | stackUnderflow => "return with an empty call stack"
  | malformedProgram pc opcode source =>
      "malformed program at " ++ hexAddress pc ++ " (opcode " ++ hexAddress opcode ++ "): " ++ source.message
  | io error => "io error: " ++ error.text

def sources : Failure → List Failure
  | malformedProgram _ _ source => source :: source.sources
  | _ => []

-- The texts of what stands below this one. Below an i/o failure stands the error that it holds.
def trail : Failure → List String
  | malformedProgram _ _ source => source.message :: source.trail
  | io error => [error.text]
  | _ => []

def detail : Failure → String
  | programTooLarge size limit =>
      Text.labelled "ProgramTooLarge" [("size", toString size), ("max", toString limit)]
  | outOfRange addr => Text.labelled "OutOfRangeAccess" [("addr", toString addr.toNat)]
  | misalignedFetch addr => Text.labelled "MisalignedFetch" [("addr", toString addr.toNat)]
  | stackOverflow => Text.labelled "StackOverflow" []
  | stackUnderflow => Text.labelled "StackUnderflow" []
  | malformedProgram pc opcode source =>
      Text.labelled "MalformedProgram"
        [("pc", toString pc.toNat), ("opcode", toString opcode.toNat), ("source", source.detail)]
  | io error => "Io(" ++ error.detail ++ ")"

end Failure

end Chip8
