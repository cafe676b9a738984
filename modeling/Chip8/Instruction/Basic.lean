import Chip8.Instruction.Word

set_option autoImplicit false

namespace Chip8

inductive Instruction where
  | clearScreen
  | ret
  | jump (nnn : Fin 4096)
  | call (nnn : Fin 4096)
  | skipEqImm (x : Nibble) (kk : UInt8)
  | skipNeImm (x : Nibble) (kk : UInt8)
  | skipEqReg (x y : Nibble)
  | loadImm (x : Nibble) (kk : UInt8)
  | addImm (x : Nibble) (kk : UInt8)
  | move (x y : Nibble)
  | or (x y : Nibble)
  | and (x y : Nibble)
  | xor (x y : Nibble)
  | addReg (x y : Nibble)
  | sub (x y : Nibble)
  | shiftRight (x : Nibble)
  | subReverse (x y : Nibble)
  | shiftLeft (x : Nibble)
  | skipNeReg (x y : Nibble)
  | loadIndex (nnn : Fin 4096)
  | jumpOffset (nnn : Fin 4096)
  | random (x : Nibble) (kk : UInt8)
  | draw (x y n : Nibble)
  | skipKeyDown (x : Nibble)
  | skipKeyUp (x : Nibble)
  | loadDelay (x : Nibble)
  | waitKey (x : Nibble)
  | setDelay (x : Nibble)
  | setSound (x : Nibble)
  | addIndex (x : Nibble)
  | loadGlyph (x : Nibble)
  | storeBcd (x : Nibble)
  | storeRegs (x : Nibble)
  | loadRegs (x : Nibble)
  | unknown (word : Word)
deriving DecidableEq, Repr

namespace Instruction

def decodeArithmetic (w : Word) : Instruction :=
  match (Word.n w).val with
  | 0x0 => .move (Word.x w) (Word.y w)
  | 0x1 => .or (Word.x w) (Word.y w)
  | 0x2 => .and (Word.x w) (Word.y w)
  | 0x3 => .xor (Word.x w) (Word.y w)
  | 0x4 => .addReg (Word.x w) (Word.y w)
  | 0x5 => .sub (Word.x w) (Word.y w)
  | 0x6 => .shiftRight (Word.x w)
  | 0x7 => .subReverse (Word.x w) (Word.y w)
  | 0xE => .shiftLeft (Word.x w)
  | _ => .unknown w

def decodeMisc (w : Word) : Instruction :=
  match (Word.kk w).toNat with
  | 0x07 => .loadDelay (Word.x w)
  | 0x0A => .waitKey (Word.x w)
  | 0x15 => .setDelay (Word.x w)
  | 0x18 => .setSound (Word.x w)
  | 0x1E => .addIndex (Word.x w)
  | 0x29 => .loadGlyph (Word.x w)
  | 0x33 => .storeBcd (Word.x w)
  | 0x55 => .storeRegs (Word.x w)
  | 0x65 => .loadRegs (Word.x w)
  | _ => .unknown w

-- The family picks the instruction. Families 5 and 9 take any low nibble; family 0 has two exact words.
def decode (w : Word) : Instruction :=
  match (Word.family w).val with
  | 0x0 => if w = 0x00E0 then .clearScreen else if w = 0x00EE then .ret else .unknown w
  | 0x1 => .jump (Word.nnn w)
  | 0x2 => .call (Word.nnn w)
  | 0x3 => .skipEqImm (Word.x w) (Word.kk w)
  | 0x4 => .skipNeImm (Word.x w) (Word.kk w)
  | 0x5 => .skipEqReg (Word.x w) (Word.y w)
  | 0x6 => .loadImm (Word.x w) (Word.kk w)
  | 0x7 => .addImm (Word.x w) (Word.kk w)
  | 0x8 => decodeArithmetic w
  | 0x9 => .skipNeReg (Word.x w) (Word.y w)
  | 0xA => .loadIndex (Word.nnn w)
  | 0xB => .jumpOffset (Word.nnn w)
  | 0xC => .random (Word.x w) (Word.kk w)
  | 0xD => .draw (Word.x w) (Word.y w) (Word.n w)
  | 0xE =>
      match (Word.kk w).toNat with
      | 0x9E => .skipKeyDown (Word.x w)
      | 0xA1 => .skipKeyUp (Word.x w)
      | _ => .unknown w
  | _ => decodeMisc w

end Instruction

end Chip8
