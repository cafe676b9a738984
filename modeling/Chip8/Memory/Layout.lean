import Chip8.Glyph

set_option autoImplicit false

namespace Chip8.Memory

def size : Nat := 4096

def programStart : Nat := 0x200

def programEnd : Nat := 0xF00

def programLimit : Nat := programEnd - programStart

abbrev Cell := Fin 4096

def Cell.low (n : Nat) : Cell :=
  ⟨n % 4096, Nat.mod_lt n (by decide)⟩

theorem Cell.low_val (cell : Cell) : Cell.low cell.val = cell := by
  apply Fin.ext
  exact Nat.mod_eq_of_lt cell.isLt

def cellAt (addr : UInt16) : Cell :=
  Cell.low addr.toNat

def InGlyphs (n : Nat) : Prop :=
  Glyph.base ≤ n ∧ n < Glyph.base + 80

def InProgram (n : Nat) : Prop :=
  programStart ≤ n ∧ n < programEnd

instance (n : Nat) : Decidable (InGlyphs n) := inferInstanceAs (Decidable (_ ∧ _))

instance (n : Nat) : Decidable (InProgram n) := inferInstanceAs (Decidable (_ ∧ _))

theorem glyph_index_lt {n : Nat} (inside : InGlyphs n) : n - Glyph.base < 80 := by
  have bounds : Glyph.base ≤ n ∧ n < Glyph.base + 80 := inside
  omega

def initialByte (cell : Cell) : UInt8 :=
  if inside : InGlyphs cell.val then Glyph.bytes[Fin.mk _ (glyph_index_lt inside)] else 0

-- `count` consecutive addresses, counted modulo 2^16.
def addresses (start : UInt16) (count : Nat) : List UInt16 :=
  (List.range count).map fun j => start + UInt16.ofNat j

theorem length_addresses (start : UInt16) (count : Nat) : (addresses start count).length = count := by
  simp [addresses]

theorem cell_at_val (addr : UInt16) : (cellAt addr).val = addr.toNat % 4096 := rfl

end Chip8.Memory
