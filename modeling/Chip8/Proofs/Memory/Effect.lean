import Chip8.Memory.Operation
import Chip8.Proofs.Memory.Access

set_option autoImplicit false

namespace Chip8.Memory

theorem store_all_keeps (m : Memory) (targets : List (Option Cell × UInt8)) (c : Cell)
    (missed : ∀ target ∈ targets, target.1 ≠ some c) : (m.storeAll targets).cell c = m.cell c := by
  induction targets generalizing m with
  | nil => rfl
  | cons target rest ih =>
      have later : ∀ other ∈ rest, other.1 ≠ some c := fun other member => missed other (by simp [member])
      obtain ⟨cell, byte⟩ := target
      cases cell with
      | none => exact ih m later
      | some cell =>
          have different : cell ≠ c := fun same => missed _ List.mem_cons_self (congrArg some same)
          have kept := ih (m.setCell cell byte) later
          rw [cell_set_cell, if_neg different] at kept
          exact kept

theorem write_keeps (m : Memory) (start : UInt16) (data : List UInt8) (c : Cell)
    (missed : ∀ addr, m.mode.writeCell addr ≠ .ok (some c)) : (m.write start data).1.cell c = m.cell c := by
  rw [write]
  cases found : (addresses start data.length).mapM m.mode.writeCell with
  | error failure => rfl
  | ok targets =>
      apply store_all_keeps
      intro target member same
      have inside : some c ∈ targets := by
        rw [← same]
        exact (List.of_mem_zip member).1
      obtain ⟨addr, _, accepted⟩ := map_m_ok_value m.mode.writeCell _ targets found (some c) inside
      exact missed addr accepted

theorem load_keeps (m : Memory) (program : List UInt8) (c : Cell) (outside : ¬ InProgram c.val) :
    (m.load program).1.cell c = m.cell c := by
  rw [load]
  split
  · have inside : c.val % Cells.size 12 = c.val := Nat.mod_eq_of_lt c.isLt
    simp only [cell, Cells.get_of_fn, inside, if_neg outside, Cell.low_val]
  · rfl

theorem read_byte_permitted (m : Memory) (addr : UInt16) (permitted : Readable addr.toNat) :
    m.readByte addr = .ok (m.cell (cellAt addr)) := by
  have inside : InGlyphs addr.toNat ∨ InProgram addr.toNat := (readable_iff addr.toNat).mp permitted
  rw [readByte]
  cases m.mode with
  | lenient => rfl
  | strict =>
      rw [Mode.readCell, if_pos inside]
      rfl

theorem read_permitted (m : Memory) (start : UInt16) (count : Nat)
    (permitted : ∀ j, j < count → Readable ((start.toNat + j) % 65536)) :
    m.read start count = .ok ((List.range count).map fun j => m.cell (Cell.low ((start.toNat + j) % 65536))) := by
  have each : ∀ addr ∈ addresses start count, m.readByte addr = .ok (m.cell (cellAt addr)) := by
    intro addr member
    obtain ⟨j, inside, rfl⟩ := List.mem_map.mp member
    apply read_byte_permitted
    rw [address_to_nat]
    exact permitted j (List.mem_range.mp inside)
  rw [read, map_m_ok_of_forall m.readByte _ _ each, addresses, List.map_map]
  simp only [Function.comp_def, cellAt, address_to_nat]

end Chip8.Memory
