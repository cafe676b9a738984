import Chip8.Instruction.Basic
import Chip8.Text.Hex
import Chip8.Text.Labelled

set_option autoImplicit false

namespace Chip8

def Word.text (w : Word) : String :=
  Text.upperHex 4 w.toNat

namespace Instruction

def withAddress (name : String) (nnn : Fin 4096) : String :=
  Text.labelled name [("nnn", toString nnn.val)]

def withRegister (name : String) (x : Nibble) : String :=
  Text.labelled name [("x", toString x.val)]

def withRegisters (name : String) (x y : Nibble) : String :=
  Text.labelled name [("x", toString x.val), ("y", toString y.val)]

def withByte (name : String) (x : Nibble) (kk : UInt8) : String :=
  Text.labelled name [("x", toString x.val), ("kk", toString kk.toNat)]

def text : Instruction → String
  | clearScreen => "ClearScreen"
  | ret => "Return"
  | jump nnn => withAddress "Jump" nnn
  | call nnn => withAddress "Call" nnn
  | skipEqImm x kk => withByte "SkipEqImm" x kk
  | skipNeImm x kk => withByte "SkipNeImm" x kk
  | skipEqReg x y => withRegisters "SkipEqReg" x y
  | loadImm x kk => withByte "LoadImm" x kk
  | addImm x kk => withByte "AddImm" x kk
  | move x y => withRegisters "Move" x y
  | or x y => withRegisters "Or" x y
  | and x y => withRegisters "And" x y
  | xor x y => withRegisters "Xor" x y
  | addReg x y => withRegisters "AddReg" x y
  | sub x y => withRegisters "Sub" x y
  | shiftRight x => withRegister "ShiftRight" x
  | subReverse x y => withRegisters "SubReverse" x y
  | shiftLeft x => withRegister "ShiftLeft" x
  | skipNeReg x y => withRegisters "SkipNeReg" x y
  | loadIndex nnn => withAddress "LoadIndex" nnn
  | jumpOffset nnn => withAddress "JumpOffset" nnn
  | random x kk => withByte "Random" x kk
  | draw x y n =>
      Text.labelled "Draw" [("x", toString x.val), ("y", toString y.val), ("n", toString n.val)]
  | skipKeyDown x => withRegister "SkipKeyDown" x
  | skipKeyUp x => withRegister "SkipKeyUp" x
  | loadDelay x => withRegister "LoadDelay" x
  | waitKey x => withRegister "WaitKey" x
  | setDelay x => withRegister "SetDelay" x
  | setSound x => withRegister "SetSound" x
  | addIndex x => withRegister "AddIndex" x
  | loadGlyph x => withRegister "LoadGlyph" x
  | storeBcd x => withRegister "StoreBcd" x
  | storeRegs x => withRegister "StoreRegs" x
  | loadRegs x => withRegister "LoadRegs" x
  | unknown word => "Unknown(" ++ toString word.toNat ++ ")"

end Instruction

end Chip8
