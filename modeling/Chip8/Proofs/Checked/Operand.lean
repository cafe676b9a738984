import Chip8.Proofs.Instruction.Spelling

set_option autoImplicit false

namespace Chip8.Operand

def x (w : Word) : UInt8 :=
  ((w >>> 8) &&& 0x0F).toUInt8

def y (w : Word) : UInt8 :=
  ((w >>> 4) &&& 0x0F).toUInt8

def n (w : Word) : UInt8 :=
  (w &&& 0x0F).toUInt8

def kk (w : Word) : UInt8 :=
  (w &&& 0xFF).toUInt8

def nnn (w : Word) : UInt16 :=
  w &&& 0x0FFF

theorem masked_nibble (w : UInt16) : (w &&& 0x0F).toUInt8.toNat = w.toNat % 16 := by
  have masked : (w &&& 0x0F).toNat = w.toNat % 16 := by
    rw [UInt16.toNat_and]
    exact Nat.and_two_pow_sub_one_eq_mod w.toNat 4
  rw [UInt16.toNat_toUInt8, masked]
  omega

theorem x_to_nat (w : Word) : (x w).toNat = (Word.x w).val := by
  rw [x, masked_nibble, UInt16.toNat_shiftRight]
  change w.toNat >>> 8 % 16 = w.toNat / 256 % 16
  rw [Nat.shiftRight_eq_div_pow]

theorem y_to_nat (w : Word) : (y w).toNat = (Word.y w).val := by
  rw [y, masked_nibble, UInt16.toNat_shiftRight]
  change w.toNat >>> 4 % 16 = w.toNat / 16 % 16
  rw [Nat.shiftRight_eq_div_pow]

theorem n_to_nat (w : Word) : (n w).toNat = (Word.n w).val :=
  masked_nibble w

theorem kk_eq (w : Word) : kk w = Word.kk w := by
  apply UInt8.toNat_inj.mp
  rw [kk, UInt16.toNat_toUInt8, UInt16.toNat_and, Word.kk_to_nat]
  have masked : w.toNat &&& 0xFF = w.toNat % 256 := Nat.and_two_pow_sub_one_eq_mod w.toNat 8
  change (w.toNat &&& 0xFF) % 256 = w.toNat % 256
  rw [masked]
  omega

theorem nnn_to_nat (w : Word) : (nnn w).toNat = (Word.nnn w).val := by
  rw [nnn, UInt16.toNat_and]
  exact Nat.and_two_pow_sub_one_eq_mod w.toNat 12

theorem nnn_eq (w : Word) : nnn w = UInt16.ofNat (Word.nnn w).val := by
  rw [← nnn_to_nat, UInt16.ofNat_toNat]

end Chip8.Operand
