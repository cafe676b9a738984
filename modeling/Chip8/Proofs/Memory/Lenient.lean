import Chip8.Memory.Operation
import Chip8.Proofs.Memory.Access

set_option autoImplicit false

namespace Chip8

theorem map_m_weaken {α β ε : Type} (narrow wide : α → Except ε β) (items : List α) (values : List β)
    (weaker : ∀ item value, narrow item = .ok value → wide item = .ok value)
    (permitted : items.mapM narrow = .ok values) : items.mapM wide = .ok values := by
  induction items generalizing values with
  | nil => exact permitted
  | cons item rest ih =>
      obtain ⟨value, first, others, remaining, rfl⟩ := (map_m_cons_ok_iff narrow item rest values).mp permitted
      exact (map_m_cons_ok_iff wide item rest _).mpr
        ⟨value, weaker item value first, others, ih others remaining, rfl⟩

theorem map_m_ok_mem {α β ε : Type} (f : α → Except ε β) (items : List α) (values : List β)
    (permitted : items.mapM f = .ok values) (item : α) (member : item ∈ items) : ∃ value, f item = .ok value := by
  induction items generalizing values with
  | nil => cases member
  | cons first rest ih =>
      obtain ⟨value, found, others, remaining, _⟩ := (map_m_cons_ok_iff f first rest values).mp permitted
      cases member with
      | head => exact ⟨value, found⟩
      | tail _ later => exact ih others remaining later

namespace Mode

theorem read_cell_lenient (mode : Mode) (addr : UInt16) (cell : Memory.Cell)
    (permitted : mode.readCell addr = .ok cell) : lenient.readCell addr = .ok cell := by
  cases mode with
  | lenient => exact permitted
  | strict =>
      by_cases inside : Memory.InGlyphs addr.toNat ∨ Memory.InProgram addr.toNat
      · simpa [readCell, inside] using permitted
      · simp [readCell, inside] at permitted

theorem fetch_cells_lenient (mode : Mode) (addr : UInt16) (cells : Memory.Cell × Memory.Cell)
    (permitted : mode.fetchCells addr = .ok cells) : lenient.fetchCells addr = .ok cells := by
  cases mode with
  | lenient => exact permitted
  | strict =>
      revert permitted
      simp only [fetchCells]
      split
      · simp
      · split <;> simp

-- Program addresses are below 4096, so that masking keeps them, and the glyphs lie elsewhere.
theorem program_cell (addr : UInt16) (inside : Memory.InProgram addr.toNat) :
    ¬ Memory.InGlyphs (Memory.cellAt addr).val := by
  obtain ⟨above, below⟩ := inside
  simp only [Memory.programStart, Memory.programEnd] at above below
  simp only [Memory.InGlyphs, Memory.cell_at_val, Glyph.base]
  omega

theorem write_cell_lenient (mode : Mode) (addr : UInt16) (target : Option Memory.Cell)
    (permitted : mode.writeCell addr = .ok target) : lenient.writeCell addr = .ok target := by
  cases mode with
  | lenient => exact permitted
  | strict =>
      by_cases inside : Memory.InProgram addr.toNat
      · simpa [writeCell, inside, program_cell addr inside] using permitted
      · simp [writeCell, inside] at permitted

theorem dropped_cells_lenient (mode : Mode) (start : UInt16) (count : Nat)
    (permitted : ∀ addr ∈ Memory.addresses start count, ∃ target, mode.writeCell addr = .ok target) :
    lenient.droppedCells start count = mode.droppedCells start count := by
  cases mode with
  | lenient => rfl
  | strict =>
      simp only [droppedCells, List.filter_eq_nil_iff, List.mem_map]
      rintro _ ⟨addr, member, rfl⟩
      obtain ⟨target, accepted⟩ := permitted addr member
      by_cases inside : Memory.InProgram addr.toNat
      · simpa using program_cell addr inside
      · simp [writeCell, inside] at accepted

end Mode

namespace Memory

def lenient (m : Memory) : Memory :=
  { m with mode := .lenient }

theorem fetch_lenient (m : Memory) (addr : UInt16) (word : UInt16) (fetched : m.fetch addr = .ok word) :
    m.lenient.fetch addr = .ok word := by
  revert fetched
  rw [fetch, fetch]
  cases cells : m.mode.fetchCells addr with
  | error failure => simp [Except.map]
  | ok pair =>
      have same : m.lenient.mode.fetchCells addr = .ok pair := Mode.fetch_cells_lenient m.mode addr pair cells
      rw [same]
      exact id

theorem read_byte_lenient (m : Memory) (addr : UInt16) (byte : UInt8) (taken : m.readByte addr = .ok byte) :
    m.lenient.readByte addr = .ok byte := by
  revert taken
  rw [readByte, readByte]
  cases found : m.mode.readCell addr with
  | error failure => simp [Except.map]
  | ok cell =>
      have same : m.lenient.mode.readCell addr = .ok cell := Mode.read_cell_lenient m.mode addr cell found
      rw [same]
      exact id

theorem read_lenient (m : Memory) (start : UInt16) (count : Nat) (bytes : List UInt8)
    (taken : m.read start count = .ok bytes) : m.lenient.read start count = .ok bytes :=
  map_m_weaken m.readByte m.lenient.readByte (addresses start count) bytes (read_byte_lenient m) taken

theorem store_all_lenient (m : Memory) (targets : List (Option Cell × UInt8)) :
    m.lenient.storeAll targets = (m.storeAll targets).lenient := by
  induction targets generalizing m with
  | nil => rfl
  | cons target rest ih =>
      obtain ⟨cell | cell, byte⟩ := target
      · exact ih m
      · exact ih (m.setCell cell byte)

theorem write_lenient (m after : Memory) (start : UInt16) (data : List UInt8)
    (written : m.write start data = (after, .ok ())) : m.lenient.write start data = (after.lenient, .ok ()) := by
  revert written
  rw [write, write]
  cases found : (addresses start data.length).mapM m.mode.writeCell with
  | error failure => simp
  | ok targets =>
      have same : (addresses start data.length).mapM m.lenient.mode.writeCell = .ok targets :=
        map_m_weaken _ _ _ targets (Mode.write_cell_lenient m.mode) found
      rw [same]
      rintro ⟨⟩
      simp only [store_all_lenient]

theorem write_permits (m after : Memory) (start : UInt16) (data : List UInt8)
    (written : m.write start data = (after, .ok ())) (addr : UInt16)
    (member : addr ∈ addresses start data.length) : ∃ target, m.mode.writeCell addr = .ok target := by
  revert written
  rw [write]
  cases found : (addresses start data.length).mapM m.mode.writeCell with
  | error failure => simp
  | ok targets =>
      intro _
      exact map_m_ok_mem m.mode.writeCell _ targets found addr member

theorem write_drops_lenient (m after : Memory) (start : UInt16) (data : List UInt8)
    (written : m.write start data = (after, .ok ())) :
    m.lenient.mode.droppedCells start data.length = m.mode.droppedCells start data.length :=
  Mode.dropped_cells_lenient m.mode start data.length (write_permits m after start data written)

theorem load_lenient (m : Memory) (program : List UInt8) :
    m.lenient.load program = ((m.load program).1.lenient, (m.load program).2) := by
  rw [load, load]
  split <;> rfl

theorem perform_load_lenient (m : Memory) (program : List UInt8) :
    m.lenient.performLoad program = ((m.performLoad program).1.lenient, (m.performLoad program).2) := by
  rw [performLoad, performLoad, load_lenient]

theorem perform_write_lenient (m after : Memory) (start : UInt16) (data : List UInt8) (notices : List Notice)
    (performed : m.perform (.write start data) = (after, .ok notices)) :
    m.lenient.perform (.write start data) = (after.lenient, .ok notices) := by
  revert performed
  rw [perform, perform]
  cases written : m.write start data with
  | mk memory result =>
      cases result with
      | error failure => simp [Except.map]
      | ok =>
          rw [write_lenient m memory start data written, write_drops_lenient m memory start data written]
          rintro ⟨⟩
          rfl

theorem perform_write_byte (m : Memory) (addr : UInt16) (byte : UInt8) :
    m.perform (.writeByte addr byte) = m.perform (.write addr [byte]) := by
  rw [perform, perform, write_byte_eq]
  rfl

theorem perform_lenient (m after : Memory) (operation : Operation) (notices : List Notice)
    (performed : m.perform operation = (after, .ok notices)) :
    m.lenient.perform operation = (after.lenient, .ok notices) := by
  cases operation with
  | load program =>
      rw [perform] at performed ⊢
      rw [perform_load_lenient, performed]
  | loadFrom deliveries =>
      rw [perform] at performed ⊢
      cases read : image deliveries with
      | error failure =>
          rw [read] at performed
          cases performed
      | ok program =>
          rw [read] at performed
          simp only [perform_load_lenient, performed]
  | writeByte addr byte =>
      rw [perform_write_byte] at performed ⊢
      exact perform_write_lenient m after addr [byte] notices performed
  | write start data => exact perform_write_lenient m after start data notices performed
  | reset =>
      cases performed
      rfl

end Memory

end Chip8
