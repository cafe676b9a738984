import Chip8.Proofs.Memory.Effect

set_option autoImplicit false

namespace Chip8.Memory

def HoldsGlyphs (m : Memory) : Prop :=
  ∀ c : Cell, InGlyphs c.val → m.cell c = initialByte c

theorem rows_initial (digit : Nibble) :
    (List.range Glyph.height).map (fun j => initialByte (Cell.low (Glyph.base + Glyph.height * digit.val + j))) =
      Glyph.rows digit := by
  revert digit
  decide

theorem glyph_row_address (digit : UInt8) (j : Nat) (small : j < Glyph.height) :
    ((Glyph.address digit).toNat + j) % 65536 = Glyph.base + Glyph.height * (digit.toNat % 16) + j ∧
      InGlyphs (Glyph.base + Glyph.height * (digit.toNat % 16) + j) := by
  have low : digit.toNat % 16 < 16 := Nat.mod_lt _ (by decide)
  rw [Glyph.address, UInt16.toNat_ofNat']
  simp only [InGlyphs, Glyph.base, Glyph.height] at small ⊢
  omega

theorem read_glyph (m : Memory) (holds : m.HoldsGlyphs) (digit : UInt8) :
    m.read (Glyph.address digit) Glyph.height = .ok (Glyph.rows (Nibble.low digit.toNat)) := by
  have permitted : ∀ j, j < Glyph.height → Readable (((Glyph.address digit).toNat + j) % 65536) := by
    intro j small
    obtain ⟨position, inside⟩ := glyph_row_address digit j small
    rw [position]
    exact (readable_iff _).mpr (.inl inside)
  rw [read_permitted m _ _ permitted, ← rows_initial]
  congr 1
  apply List.map_congr_left
  intro j member
  obtain ⟨position, inside⟩ := glyph_row_address digit j (List.mem_range.mp member)
  have below : Glyph.base + Glyph.height * (digit.toNat % 16) + j < 4096 := by
    have last := inside.2
    simp only [Glyph.base] at last ⊢
    omega
  rw [position]
  apply holds
  change InGlyphs ((Glyph.base + Glyph.height * (digit.toNat % 16) + j) % 4096)
  rw [Nat.mod_eq_of_lt below]
  exact inside

theorem glyph_cell (m : Memory) (holds : m.HoldsGlyphs) (i : Fin 80) :
    m.cell (Cell.low (Glyph.base + i.val)) = Glyph.bytes.get i := by
  have position : (Cell.low (Glyph.base + i.val)).val = Glyph.base + i.val := by
    apply Nat.mod_eq_of_lt
    simp only [Glyph.base]
    omega
  have inside : InGlyphs (Cell.low (Glyph.base + i.val)).val := by
    rw [position]
    simp only [InGlyphs, Glyph.base]
    omega
  rw [holds _ inside, initialByte, dif_pos inside]
  simp only [position, Nat.add_sub_cancel_left]
  rfl

end Chip8.Memory
