import Mathlib.Data.List.FinRange
import Chip8.Machine.Dump
import Chip8.Proofs.Checked.Execute

set_option autoImplicit false

namespace Chip8

section Pieces

variable {α : Type}

def pieces (width : Nat) (items : List α) : List (Nat × List α) :=
  (List.range ((items.length + width - 1) / width)).map fun row => (row, (items.drop (row * width)).take width)

theorem range_map_of_fn (n : Nat) (f : Nat → α) : (List.range n).map f = List.ofFn fun i : Fin n => f i.val := by
  apply eq_of_fn
  · rw [List.length_map, List.length_range]
  · intro i
    rw [List.getElem?_map, List.getElem?_range i.isLt, Option.map_some]

theorem place_lt {rows width n : Nat} (fits : rows * width = n) (row : Fin rows) (column : Fin width) :
    row.val * width + column.val < n := by
  calc row.val * width + column.val < row.val * width + width := Nat.add_lt_add_left column.isLt _
    _ = (row.val + 1) * width := (Nat.succ_mul _ _).symm
    _ ≤ rows * width := Nat.mul_le_mul_right width row.isLt
    _ = n := fits

theorem pieces_of_fn {n : Nat} (f : Fin n → α) (rows width : Nat) (positive : 0 < width) (fits : rows * width = n) :
    pieces width (List.ofFn f) =
      List.ofFn fun row : Fin rows =>
        (row.val, List.ofFn fun column : Fin width => f ⟨row.val * width + column.val, place_lt fits row column⟩) := by
  have number : (n + width - 1) / width = rows := by
    rw [← fits, Nat.add_sub_assoc positive, Nat.add_comm, Nat.add_mul_div_right _ _ positive,
      Nat.div_eq_of_lt (Nat.sub_lt positive Nat.one_pos), Nat.zero_add]
  rw [pieces, List.length_ofFn, number, range_map_of_fn]
  congr 1
  funext row
  have inside : row.val * width + width ≤ n := by
    rw [← Nat.succ_mul, ← fits]
    exact Nat.mul_le_mul_right width row.isLt
  refine congrArg (Prod.mk row.val) ?_
  apply eq_of_fn
  · rw [List.length_take, List.length_drop, List.length_ofFn]
    omega
  · intro column
    rw [List.getElem?_take_of_lt column.isLt, List.getElem?_drop]
    exact of_fn_at f ⟨row.val * width + column.val, place_lt fits row column⟩

theorem zip_idx_of_fn {n : Nat} (f : Fin n → α) : (List.ofFn f).zipIdx = List.ofFn fun i => (f i, i.val) := by
  apply eq_of_fn
  · rw [List.length_zipIdx, List.length_ofFn]
  · intro i
    rw [List.getElem?_zipIdx, of_fn_at, Option.map_some, Nat.zero_add]

end Pieces

namespace ArrayMachine

def registerLine (piece : Nat × List UInt8) : String :=
  String.join (piece.2.zipIdx.map fun entry =>
    "V" ++ Text.upperHex 1 (piece.1 * 4 + entry.2) ++ "=" ++ Text.lowerHex 2 entry.1.toNat ++ " ")

def memoryLine (piece : Nat × List UInt8) : String :=
  Text.lowerHex 4 (piece.1 * 16) ++ ":" ++
    String.join (piece.2.map fun byte => " " ++ Text.lowerHex 2 byte.toNat)

def screenLine (piece : Nat × List UInt32) : String :=
  String.ofList (piece.2.map fun value => if value == Screen.litValue then '#' else '.')

def controlLine (m : ArrayMachine) : String :=
  "I=" ++ Text.lowerHex 4 m.index.toNat ++ " PC=" ++ Text.lowerHex 4 m.pc.toNat ++
    " SP=" ++ toString m.stackPointer ++ " DT=" ++ Text.lowerHex 2 m.delay.toNat ++
    " ST=" ++ Text.lowerHex 2 m.sound.toNat ++ " last=" ++ Text.lowerHex 4 m.lastOpcode.toNat

def stackLine (stack : List UInt16) : String :=
  "stack: [" ++ ", ".intercalate (stack.map fun addr => Text.lowerHex 4 addr.toNat) ++ "]"

def stackView (m : ArrayMachine) : Checked (List UInt16) :=
  Checked.slice m.stack 0 m.stackPointer

def coreDump (m : ArrayMachine) : Checked String := do
  let stack ← m.stackView
  let lines := ["================REGISTER DUMP================"] ++
    (pieces 4 m.registers).map registerLine ++
    [m.controlLine, stackLine stack, "=================MEMORY DUMP================="] ++
    (pieces 16 m.memory.bytes).map memoryLine ++
    ["================DISPLAY DUMP================="] ++
    (pieces 64 m.screen.values).map screenLine
  return String.join (lines.map (· ++ "\n"))

end ArrayMachine

namespace Machine

theorem stack_view_checked (m : Machine) (slots : List UInt16) (stacked : Stacked m.stack slots) :
    (m.array slots).stackView = .ok m.stack.reverse := by
  have inside : m.stack.length ≤ slots.length := by
    rw [stacked.number]
    exact stacked.depth
  have viewed := Checked.slice_ok slots 0 m.stack.length (Nat.zero_le _) inside
  rw [List.drop_zero, stacked.below] at viewed
  exact viewed

theorem register_lines (m : Machine) :
    (pieces 4 (List.ofFn m.registers.get)).map ArrayMachine.registerLine = (List.finRange 4).map m.registerLine := by
  rw [pieces_of_fn m.registers.get 4 4 (by decide) rfl, List.map_ofFn, List.ofFn_eq_map]
  apply List.map_congr_left
  intro row _
  rw [Function.comp_apply, ArrayMachine.registerLine, registerLine, zip_idx_of_fn, List.map_ofFn, List.ofFn_eq_map]
  rfl

theorem memory_lines (m : Memory) :
    (pieces 16 (List.ofFn m.cell)).map ArrayMachine.memoryLine = m.dump := by
  rw [pieces_of_fn m.cell 256 16 (by decide) rfl, List.map_ofFn, List.ofFn_eq_map, Memory.dump]
  apply List.map_congr_left
  intro row _
  rw [Function.comp_apply, ArrayMachine.memoryLine, Memory.dumpLine, List.map_ofFn, List.ofFn_eq_map]
  rfl

theorem screen_lines (s : Screen) :
    (pieces 64 (List.ofFn s.value)).map ArrayMachine.screenLine = s.lines := by
  rw [pieces_of_fn s.value 32 64 (by decide) rfl, List.map_ofFn, Screen.lines, range_map_of_fn]
  congr 1
  funext row
  rw [Function.comp_apply, ArrayMachine.screenLine, Screen.line, List.map_ofFn, range_map_of_fn]
  congr 2
  funext column
  have bound : row.val < 32 := row.isLt
  have place : (⟨row.val * 64 + column.val, place_lt rfl row column⟩ : Screen.Pixel) = Screen.pixelAt column.val row.val := by
    apply Fin.ext
    rw [Screen.pixel_at_val column.val row.val column.isLt bound]
  rw [Function.comp_apply, place, Screen.value_lit, Screen.isOn]

theorem core_dump_checked (m : Machine) (slots : List UInt16) (stacked : Stacked m.stack slots) :
    (m.array slots).coreDump = .ok m.coreDump := by
  have registers : (m.array slots).registers = List.ofFn m.registers.get := rfl
  have memory : (m.array slots).memory.bytes = List.ofFn m.memory.cell := Memory.array_bytes m.memory
  have screen : (m.array slots).screen.values = List.ofFn m.screen.value := Screen.array_values m.screen
  have control : (m.array slots).controlLine = m.controlLine := rfl
  simp only [ArrayMachine.coreDump, stack_view_checked m slots stacked, Checked.ok_bind, registers, memory, screen,
    control, register_lines, memory_lines, screen_lines]
  rfl

end Machine

end Chip8
