import Chip8.Memory.Basic
import Chip8.Text.Hex

set_option autoImplicit false

namespace Chip8.Memory

def dumpLine (m : Memory) (row : Fin 256) : String :=
  Text.lowerHex 4 (row.val * 16) ++ ":" ++
    String.join ((List.finRange 16).map fun column =>
      " " ++ Text.lowerHex 2 (m.cell ⟨row.val * 16 + column.val, by omega⟩).toNat)

def dump (m : Memory) : List String :=
  (List.finRange 256).map m.dumpLine

end Chip8.Memory
