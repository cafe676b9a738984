import Chip8.Instruction.Basic

set_option autoImplicit false

namespace Chip8

namespace Word

theorem family_val (w : Word) : (family w).val = w.toNat / 4096 := by
  have bound : w.toNat < 65536 := w.toNat_lt
  change w.toNat / 4096 % 16 = w.toNat / 4096
  omega

theorem n_val (w : Word) : (n w).val = w.toNat % 16 := rfl

theorem kk_to_nat (w : Word) : (kk w).toNat = w.toNat % 256 :=
  UInt8.toNat_ofNat'

end Word

namespace Instruction

-- Families 5 and 9 are spelled with any low digit.
inductive Spells (w : Word) : Instruction → Prop where
  | clearScreen (whole : w = 0x00E0) : Spells w .clearScreen
  | ret (whole : w = 0x00EE) : Spells w .ret
  | jump (family : w.toNat / 4096 = 1) : Spells w (.jump (Word.nnn w))
  | call (family : w.toNat / 4096 = 2) : Spells w (.call (Word.nnn w))
  | skipEqImm (family : w.toNat / 4096 = 3) : Spells w (.skipEqImm (Word.x w) (Word.kk w))
  | skipNeImm (family : w.toNat / 4096 = 4) : Spells w (.skipNeImm (Word.x w) (Word.kk w))
  | skipEqReg (family : w.toNat / 4096 = 5) : Spells w (.skipEqReg (Word.x w) (Word.y w))
  | loadImm (family : w.toNat / 4096 = 6) : Spells w (.loadImm (Word.x w) (Word.kk w))
  | addImm (family : w.toNat / 4096 = 7) : Spells w (.addImm (Word.x w) (Word.kk w))
  | move (family : w.toNat / 4096 = 8) (low : w.toNat % 16 = 0) : Spells w (.move (Word.x w) (Word.y w))
  | or (family : w.toNat / 4096 = 8) (low : w.toNat % 16 = 1) : Spells w (.or (Word.x w) (Word.y w))
  | and (family : w.toNat / 4096 = 8) (low : w.toNat % 16 = 2) : Spells w (.and (Word.x w) (Word.y w))
  | xor (family : w.toNat / 4096 = 8) (low : w.toNat % 16 = 3) : Spells w (.xor (Word.x w) (Word.y w))
  | addReg (family : w.toNat / 4096 = 8) (low : w.toNat % 16 = 4) : Spells w (.addReg (Word.x w) (Word.y w))
  | sub (family : w.toNat / 4096 = 8) (low : w.toNat % 16 = 5) : Spells w (.sub (Word.x w) (Word.y w))
  | shiftRight (family : w.toNat / 4096 = 8) (low : w.toNat % 16 = 6) : Spells w (.shiftRight (Word.x w))
  | subReverse (family : w.toNat / 4096 = 8) (low : w.toNat % 16 = 7) :
      Spells w (.subReverse (Word.x w) (Word.y w))
  | shiftLeft (family : w.toNat / 4096 = 8) (low : w.toNat % 16 = 0xE) : Spells w (.shiftLeft (Word.x w))
  | skipNeReg (family : w.toNat / 4096 = 9) : Spells w (.skipNeReg (Word.x w) (Word.y w))
  | loadIndex (family : w.toNat / 4096 = 0xA) : Spells w (.loadIndex (Word.nnn w))
  | jumpOffset (family : w.toNat / 4096 = 0xB) : Spells w (.jumpOffset (Word.nnn w))
  | random (family : w.toNat / 4096 = 0xC) : Spells w (.random (Word.x w) (Word.kk w))
  | draw (family : w.toNat / 4096 = 0xD) : Spells w (.draw (Word.x w) (Word.y w) (Word.n w))
  | skipKeyDown (family : w.toNat / 4096 = 0xE) (low : w.toNat % 256 = 0x9E) : Spells w (.skipKeyDown (Word.x w))
  | skipKeyUp (family : w.toNat / 4096 = 0xE) (low : w.toNat % 256 = 0xA1) : Spells w (.skipKeyUp (Word.x w))
  | loadDelay (family : w.toNat / 4096 = 0xF) (low : w.toNat % 256 = 0x07) : Spells w (.loadDelay (Word.x w))
  | waitKey (family : w.toNat / 4096 = 0xF) (low : w.toNat % 256 = 0x0A) : Spells w (.waitKey (Word.x w))
  | setDelay (family : w.toNat / 4096 = 0xF) (low : w.toNat % 256 = 0x15) : Spells w (.setDelay (Word.x w))
  | setSound (family : w.toNat / 4096 = 0xF) (low : w.toNat % 256 = 0x18) : Spells w (.setSound (Word.x w))
  | addIndex (family : w.toNat / 4096 = 0xF) (low : w.toNat % 256 = 0x1E) : Spells w (.addIndex (Word.x w))
  | loadGlyph (family : w.toNat / 4096 = 0xF) (low : w.toNat % 256 = 0x29) : Spells w (.loadGlyph (Word.x w))
  | storeBcd (family : w.toNat / 4096 = 0xF) (low : w.toNat % 256 = 0x33) : Spells w (.storeBcd (Word.x w))
  | storeRegs (family : w.toNat / 4096 = 0xF) (low : w.toNat % 256 = 0x55) : Spells w (.storeRegs (Word.x w))
  | loadRegs (family : w.toNat / 4096 = 0xF) (low : w.toNat % 256 = 0x65) : Spells w (.loadRegs (Word.x w))
  | unknownSystem (family : w.toNat / 4096 = 0) (notClear : w ≠ 0x00E0) (notReturn : w ≠ 0x00EE) :
      Spells w (.unknown w)
  | unknownArithmetic (family : w.toNat / 4096 = 8) (low : w.toNat % 16 ∉ [0, 1, 2, 3, 4, 5, 6, 7, 0xE]) :
      Spells w (.unknown w)
  | unknownKey (family : w.toNat / 4096 = 0xE) (low : w.toNat % 256 ∉ [0x9E, 0xA1]) : Spells w (.unknown w)
  | unknownMisc (family : w.toNat / 4096 = 0xF)
      (low : w.toNat % 256 ∉ [0x07, 0x0A, 0x15, 0x18, 0x1E, 0x29, 0x33, 0x55, 0x65]) : Spells w (.unknown w)

theorem arithmetic_spells (w : Word) (family : w.toNat / 4096 = 8) : Spells w (decodeArithmetic w) := by
  rw [decodeArithmetic, Word.n_val]
  split
  case h_1 low => exact .move family low
  case h_2 low => exact .or family low
  case h_3 low => exact .and family low
  case h_4 low => exact .xor family low
  case h_5 low => exact .addReg family low
  case h_6 low => exact .sub family low
  case h_7 low => exact .shiftRight family low
  case h_8 low => exact .subReverse family low
  case h_9 low => exact .shiftLeft family low
  case h_10 => exact .unknownArithmetic family (by simp_all)

theorem misc_spells (w : Word) (family : w.toNat / 4096 = 0xF) : Spells w (decodeMisc w) := by
  rw [decodeMisc, Word.kk_to_nat]
  split
  case h_1 low => exact .loadDelay family low
  case h_2 low => exact .waitKey family low
  case h_3 low => exact .setDelay family low
  case h_4 low => exact .setSound family low
  case h_5 low => exact .addIndex family low
  case h_6 low => exact .loadGlyph family low
  case h_7 low => exact .storeBcd family low
  case h_8 low => exact .storeRegs family low
  case h_9 low => exact .loadRegs family low
  case h_10 => exact .unknownMisc family (by simp_all)

theorem decode_spells (w : Word) : Spells w (decode w) := by
  have bound : w.toNat < 65536 := w.toNat_lt
  rw [decode, Word.family_val]
  split
  case h_1 family =>
    split
    · rename_i whole
      exact .clearScreen whole
    · rename_i notClear
      split
      · rename_i whole
        exact .ret whole
      · rename_i notReturn
        exact .unknownSystem family notClear notReturn
  case h_2 family => exact .jump family
  case h_3 family => exact .call family
  case h_4 family => exact .skipEqImm family
  case h_5 family => exact .skipNeImm family
  case h_6 family => exact .skipEqReg family
  case h_7 family => exact .loadImm family
  case h_8 family => exact .addImm family
  case h_9 family => exact arithmetic_spells w family
  case h_10 family => exact .skipNeReg family
  case h_11 family => exact .loadIndex family
  case h_12 family => exact .jumpOffset family
  case h_13 family => exact .random family
  case h_14 family => exact .draw family
  case h_15 family =>
    rw [Word.kk_to_nat]
    split
    case h_1 low => exact .skipKeyDown family low
    case h_2 low => exact .skipKeyUp family low
    case h_3 => exact .unknownKey family (by simp_all)
  case h_16 =>
    simp only [imp_false] at *
    exact misc_spells w (by omega)

theorem decode_of_spells (w : Word) (instruction : Instruction) (spelled : Spells w instruction) :
    decode w = instruction := by
  cases spelled with
  | clearScreen whole | ret whole =>
      subst whole
      rfl
  | unknownSystem family notClear notReturn => simp [decode, Word.family_val, family, notClear, notReturn]
  | unknownArithmetic family low =>
      simp only [List.mem_cons, List.not_mem_nil, or_false, not_or] at low
      simp [decode, Word.family_val, family, decodeArithmetic, Word.n_val, low]
  | unknownKey family low =>
      simp only [List.mem_cons, List.not_mem_nil, or_false, not_or] at low
      simp [decode, Word.family_val, family, Word.kk_to_nat, low]
  | unknownMisc family low =>
      simp only [List.mem_cons, List.not_mem_nil, or_false, not_or] at low
      simp [decode, Word.family_val, family, decodeMisc, Word.kk_to_nat, low]
  | move family low | or family low | and family low | xor family low | addReg family low | sub family low
  | shiftRight family low | subReverse family low | shiftLeft family low =>
      simp only [decode, Word.family_val, family, decodeArithmetic, Word.n_val, low]
  | skipKeyDown family low | skipKeyUp family low => simp only [decode, Word.family_val, family, Word.kk_to_nat, low]
  | loadDelay family low | waitKey family low | setDelay family low | setSound family low | addIndex family low
  | loadGlyph family low | storeBcd family low | storeRegs family low | loadRegs family low =>
      simp only [decode, Word.family_val, family, decodeMisc, Word.kk_to_nat, low]
  | _ family => simp only [decode, Word.family_val, family]

theorem decode_eq_iff (w : Word) (instruction : Instruction) : decode w = instruction ↔ Spells w instruction := by
  constructor
  · rintro rfl
    exact decode_spells w
  · exact decode_of_spells w instruction

end Instruction

end Chip8
