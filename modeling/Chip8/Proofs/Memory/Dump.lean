import Chip8.Memory.Dump
import Chip8.Proofs.Text.Hex
import Chip8.Proofs.Text.Lines

set_option autoImplicit false

namespace Chip8.Memory

def dumpColumn (m : Memory) (c : Cell) : List Char :=
  ' ' :: Text.hexDigits 2 (m.cell c).toNat

theorem length_dump_column (m : Memory) (c : Cell) : (m.dumpColumn c).length = 3 := by
  rw [dumpColumn, List.length_cons, Text.length_hex_digits]

theorem dump_line_columns (m : Memory) (row : Fin 256) :
    (m.dumpLine row).toList = Text.hexDigits 4 (16 * row.val) ++ ':' ::
      (List.range 16).flatMap fun column => m.dumpColumn (Cell.low (16 * row.val + column)) := by
  have columns : List.range 16 = (List.finRange 16).map Fin.val := rfl
  have same : ∀ column : Fin 16, (⟨row.val * 16 + column.val, by omega⟩ : Cell) =
      Cell.low (16 * row.val + column.val) := by
    intro column
    apply Fin.ext
    change row.val * 16 + column.val = (16 * row.val + column.val) % 4096
    omega
  rw [columns, List.flatMap_map]
  simp [dumpLine, dumpColumn, Text.lowerHex, String.toList_join, List.flatMap_map, same, Nat.mul_comm]

theorem read_cell (m : Memory) (c : Cell) (row : Fin 256) (above : row.val = c.val / 16) :
    Text.byteAt (m.dumpLine row).toList (3 * (c.val % 16) + 6) = m.cell c := by
  have inside : c.val % 16 < (List.range 16).length := by
    rw [List.length_range]
    exact Nat.mod_lt _ (by decide)
  have widths : ∀ column ∈ List.range 16, (m.dumpColumn (Cell.low (16 * row.val + column))).length = 3 :=
    fun column _ => m.length_dump_column _
  have here : Cell.low (16 * row.val + (List.range 16)[c.val % 16]) = c := by
    apply Fin.ext
    rw [List.getElem_range]
    change (16 * row.val + c.val % 16) % 4096 = c.val
    omega
  have label : (Text.hexDigits 4 (16 * row.val) ++ [':']).length = 5 := by
    rw [List.length_append, Text.length_hex_digits]
    rfl
  have behindLabel : 3 * (c.val % 16) + 6 = 5 + (3 * (c.val % 16) + 1) := by omega
  apply Text.byte_at_spelled
  rw [dump_line_columns, List.append_cons, behindLabel, ← label, ← List.drop_drop, List.drop_left,
    Text.take_in_column 3 (c.val % 16) 1 2 _ _ widths inside (by decide), here]
  rfl

theorem dump_line_unbroken (m : Memory) (row : Fin 256) : '\n' ∉ (m.dumpLine row).toList := by
  rw [dump_line_columns]
  simp [dumpColumn, Text.newline_not_hex]

end Chip8.Memory
