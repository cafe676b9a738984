import Chip8.Machine.Basic
import Chip8.Memory.Dump
import Chip8.Screen.View

set_option autoImplicit false

namespace Chip8.Machine

def registerLine (m : Machine) (row : Fin 4) : String :=
  String.join ((List.finRange 4).map fun column =>
    let x : Nibble := ⟨row.val * 4 + column.val, by omega⟩
    "V" ++ Text.upperHex 1 x.val ++ "=" ++ Text.lowerHex 2 (m.register x).toNat ++ " ")

def controlLine (m : Machine) : String :=
  "I=" ++ Text.lowerHex 4 m.index.toNat ++ " PC=" ++ Text.lowerHex 4 m.pc.toNat ++
    " SP=" ++ toString m.stack.length ++ " DT=" ++ Text.lowerHex 2 m.delay.toNat ++
    " ST=" ++ Text.lowerHex 2 m.sound.toNat ++ " last=" ++ Text.lowerHex 4 m.lastOpcode.toNat

def stackLine (m : Machine) : String :=
  "stack: [" ++ ", ".intercalate (m.stack.reverse.map fun addr => Text.lowerHex 4 addr.toNat) ++ "]"

def dumpLines (m : Machine) : List String :=
  ["================REGISTER DUMP================"] ++
    (List.finRange 4).map m.registerLine ++
    [m.controlLine, m.stackLine, "=================MEMORY DUMP================="] ++
    m.memory.dump ++
    ["================DISPLAY DUMP================="] ++
    m.screen.lines

def coreDump (m : Machine) : String :=
  String.join (m.dumpLines.map (· ++ "\n"))

end Chip8.Machine
