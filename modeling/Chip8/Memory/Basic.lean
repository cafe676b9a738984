import Chip8.Cells
import Chip8.Memory.Layout

set_option autoImplicit false

namespace Chip8

/-- Strict memory refuses what lies outside the permitted areas. Lenient memory uses the low twelve bits
of every address and drops writes to the glyphs. -/
inductive Mode where
  | lenient
  | strict
deriving DecidableEq, Repr

structure Memory where
  mode : Mode
  cells : Cells UInt8 12
deriving DecidableEq

namespace Memory

def fresh (mode : Mode) : Memory :=
  ⟨mode, Cells.ofFn 12 fun i => initialByte (Cell.low i)⟩

def reset (m : Memory) : Memory :=
  fresh m.mode

def cell (m : Memory) (c : Cell) : UInt8 :=
  m.cells.get c.val

def setCell (m : Memory) (c : Cell) (byte : UInt8) : Memory :=
  { m with cells := m.cells.set c.val byte }

theorem cell_of_fn (mode : Mode) (f : Cell → UInt8) (c : Cell) :
    cell ⟨mode, Cells.ofFn 12 fun i => f (Cell.low i)⟩ c = f c := by
  have inside : c.val % Cells.size 12 = c.val := Nat.mod_eq_of_lt c.isLt
  rw [cell, Cells.get_of_fn, inside, Cell.low_val]

theorem cell_fresh (mode : Mode) (c : Cell) : (fresh mode).cell c = initialByte c :=
  cell_of_fn mode initialByte c

theorem cell_reset (m : Memory) (c : Cell) : m.reset.cell c = initialByte c :=
  cell_fresh m.mode c

theorem cell_set_cell (m : Memory) (c d : Cell) (byte : UInt8) :
    (m.setCell c byte).cell d = if c = d then byte else m.cell d := by
  have left : c.val % Cells.size 12 = c.val := Nat.mod_eq_of_lt c.isLt
  have right : d.val % Cells.size 12 = d.val := Nat.mod_eq_of_lt d.isLt
  simp only [setCell, cell, Cells.get_set, left, right, Fin.ext_iff]

end Memory

end Chip8
