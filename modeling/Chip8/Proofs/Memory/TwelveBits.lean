import Chip8.Proofs.Memory.Lenient

set_option autoImplicit false

namespace Chip8.Memory

def Congruent (x y : UInt16) : Prop :=
  x.toNat % 4096 = y.toNat % 4096

theorem congruent_refl (x : UInt16) : Congruent x x :=
  rfl

-- 2^16 is a multiple of 4096, so that wrapping an address keeps its low bits.
theorem congruent_add (x y distance : UInt16) (near : Congruent x y) : Congruent (x + distance) (y + distance) := by
  rw [Congruent] at near ⊢
  rw [UInt16.toNat_add, UInt16.toNat_add]
  omega

theorem congruent_sub (x y distance : UInt16) (near : Congruent x y) : Congruent (x - distance) (y - distance) := by
  rw [Congruent] at near ⊢
  rw [UInt16.toNat_sub, UInt16.toNat_sub]
  omega

theorem cell_at_congruent (x y : UInt16) (near : Congruent x y) : cellAt x = cellAt y :=
  Fin.ext near

theorem fetch_congruent (m : Memory) (lenient : m.mode = .lenient) (x y : UInt16) (near : Congruent x y) :
    m.fetch x = m.fetch y := by
  rw [fetch, fetch, lenient]
  simp only [Mode.fetchCells]
  rw [cell_at_congruent x y near, cell_at_congruent (x + 1) (y + 1) (congruent_add x y 1 near)]

theorem read_byte_congruent (m : Memory) (lenient : m.mode = .lenient) (x y : UInt16) (near : Congruent x y) :
    m.readByte x = m.readByte y := by
  rw [readByte, readByte, lenient]
  simp only [Mode.readCell]
  rw [cell_at_congruent x y near]

theorem write_cell_congruent (x y : UInt16) (near : Congruent x y) :
    Mode.lenient.writeCell x = Mode.lenient.writeCell y := by
  rw [Mode.writeCell, Mode.writeCell, cell_at_congruent x y near]

theorem image_congruent {α : Type} (view : UInt16 → α) (blind : ∀ x y, Congruent x y → view x = view y)
    (x y : UInt16) (near : Congruent x y) (count : Nat) :
    (addresses x count).map view = (addresses y count).map view := by
  rw [addresses, addresses, List.map_map, List.map_map]
  apply List.map_congr_left
  intro j _
  exact blind _ _ (congruent_add x y (UInt16.ofNat j) near)

theorem run_congruent {α : Type} (access : UInt16 → Except Failure α)
    (blind : ∀ x y, Congruent x y → access x = access y) (x y : UInt16) (near : Congruent x y) (count : Nat) :
    (addresses x count).mapM access = (addresses y count).mapM access := by
  have split : ∀ items : List UInt16, items.mapM access = (items.map access).mapM id := by
    intro items
    rw [List.mapM_map]
    rfl
  rw [split, split, image_congruent access blind x y near count]

theorem read_congruent (m : Memory) (lenient : m.mode = .lenient) (x y : UInt16) (near : Congruent x y)
    (count : Nat) : m.read x count = m.read y count :=
  run_congruent m.readByte (read_byte_congruent m lenient) x y near count

theorem write_congruent (m : Memory) (lenient : m.mode = .lenient) (x y : UInt16) (near : Congruent x y)
    (data : List UInt8) : m.write x data = m.write y data := by
  rw [write, write, lenient, run_congruent _ write_cell_congruent x y near]

theorem perform_write_congruent (m : Memory) (lenient : m.mode = .lenient) (x y : UInt16) (near : Congruent x y)
    (data : List UInt8) : m.perform (.write x data) = m.perform (.write y data) := by
  have dropped : m.mode.droppedCells x data.length = m.mode.droppedCells y data.length := by
    rw [lenient, Mode.droppedCells, Mode.droppedCells, image_congruent cellAt cell_at_congruent x y near]
  rw [perform, perform, write_congruent m lenient x y near, dropped]

theorem perform_write_byte_congruent (m : Memory) (lenient : m.mode = .lenient) (x y : UInt16) (near : Congruent x y)
    (byte : UInt8) : m.perform (.writeByte x byte) = m.perform (.writeByte y byte) := by
  rw [perform_write_byte, perform_write_byte, perform_write_congruent m lenient x y near]

end Chip8.Memory
