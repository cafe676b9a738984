import Chip8.Proofs.Checked.Basic
import Chip8.Proofs.Memory.Delivery
import Chip8.Proofs.Memory.Shielded

set_option autoImplicit false

namespace Chip8

structure ArrayMemory where
  strict : Bool
  bytes : List UInt8

namespace ArrayMemory

def mask : UInt16 := 0xFFF

def isGlyph (addr : UInt16) : Checked Bool := do
  let size ← Checked.mul16 5 16
  let last ← Checked.add16 0x50 size
  return decide (0x50 ≤ addr) && decide (addr < last)

def isProtected (addr : UInt16) : Bool :=
  decide (0x200 ≤ addr) && decide (addr < 0xF00)

def resolveRead (m : ArrayMemory) (addr : UInt16) : Checked (Except Failure Nat) := do
  if !m.strict then return .ok (addr &&& mask).toNat
  let glyph ← isGlyph addr
  if glyph || isProtected addr then return .ok addr.toNat
  return .error (.outOfRange addr)

def resolveWrite (m : ArrayMemory) (addr : UInt16) : Checked (Except Failure (Option Nat)) := do
  if m.strict then
    if isProtected addr then return .ok (some addr.toNat)
    return .error (.outOfRange addr)
  let masked := addr &&& mask
  let glyph ← isGlyph masked
  if glyph then return .ok none
  return .ok (some masked.toNat)

def resolveFetch (m : ArrayMemory) (addr : UInt16) : Checked (Except Failure (Nat × Nat)) := do
  if !m.strict then return .ok ((addr &&& mask).toNat, ((addr + 1) &&& mask).toNat)
  if addr < 0x200 then return .error (.outOfRange addr)
  let next ← Checked.add32 addr.toUInt32 1
  if 0xF00 ≤ next then return .error (.outOfRange addr)
  if addr % 2 ≠ 0 then return .error (.misalignedFetch addr)
  return .ok (addr.toNat, addr.toNat + 1)

def readInstruction (m : ArrayMemory) (addr : UInt16) : Checked (Except Failure UInt16) := do
  match ← m.resolveFetch addr with
  | .error failure => return .error failure
  | .ok (high, low) =>
      let first ← Checked.get m.bytes high
      let second ← Checked.get m.bytes low
      return .ok (first.toUInt16 <<< 8 ||| second.toUInt16)

def readByte (m : ArrayMemory) (addr : UInt16) : Checked (Except Failure UInt8) := do
  match ← m.resolveRead addr with
  | .error failure => return .error failure
  | .ok a =>
      let byte ← Checked.get m.bytes a
      return .ok byte

def readEach (m : ArrayMemory) : List UInt16 → Checked (Except Failure (List UInt8))
  | [] => return .ok []
  | addr :: rest => do
      match ← m.readByte addr with
      | .error failure => return .error failure
      | .ok byte =>
          match ← m.readEach rest with
          | .error failure => return .error failure
          | .ok bytes => return .ok (byte :: bytes)

def readBytes (m : ArrayMemory) (start : UInt16) (count : Nat) : Checked (Except Failure (List UInt8)) :=
  m.readEach (Memory.addresses start count)

def resolveEach (m : ArrayMemory) : List UInt16 → Checked (Except Failure (List (Option Nat)))
  | [] => return .ok []
  | addr :: rest => do
      match ← m.resolveWrite addr with
      | .error failure => return .error failure
      | .ok target =>
          match ← m.resolveEach rest with
          | .error failure => return .error failure
          | .ok targets => return .ok (target :: targets)

def storeEach (bytes : List UInt8) : List (Option Nat × UInt8) → Checked (List UInt8)
  | [] => return bytes
  | (none, _) :: rest => storeEach bytes rest
  | (some a, value) :: rest => do
      let stored ← Checked.set bytes a value
      storeEach stored rest

def writeByte (m : ArrayMemory) (addr : UInt16) (byte : UInt8) : Checked (ArrayMemory × Except Failure Unit) := do
  match ← m.resolveWrite addr with
  | .error failure => return (m, .error failure)
  | .ok target =>
      let bytes ← storeEach m.bytes [(target, byte)]
      return ({ m with bytes := bytes }, .ok ())

def writeBytes (m : ArrayMemory) (start : UInt16) (data : List UInt8) :
    Checked (ArrayMemory × Except Failure Unit) := do
  match ← m.resolveEach (Memory.addresses start data.length) with
  | .error failure => return (m, .error failure)
  | .ok targets =>
      let bytes ← storeEach m.bytes (targets.zip data)
      return ({ m with bytes := bytes }, .ok ())

def load (m : ArrayMemory) (program : List UInt8) : Checked (ArrayMemory × Except Failure Unit) := do
  let limit ← Checked.sub16 0xF00 0x200
  if limit.toNat < program.length then
    return (m, .error (.programTooLarge program.length limit.toNat))
  let cleared ← Checked.fill m.bytes 0x200 0xF00 0
  let bytes ← Checked.copy cleared 0x200 (0x200 + program.length) program
  return ({ m with bytes := bytes }, .ok ())

def loadFrom (m : ArrayMemory) (deliveries : List Memory.Delivery) : Checked (ArrayMemory × Except Failure Unit) :=
  match Memory.image deliveries with
  | .error failure => return (m, .error failure)
  | .ok program => m.load program

def reset (m : ArrayMemory) : Checked ArrayMemory := do
  let cleared := List.replicate m.bytes.length 0
  let glyphs := Glyph.bytes.toList
  let bytes ← Checked.copy cleared 0x50 (0x50 + glyphs.length) glyphs
  return { m with bytes := bytes }

def fresh (strict : Bool) : Checked ArrayMemory :=
  reset ⟨strict, List.replicate 4096 0⟩

def perform (m : ArrayMemory) : Memory.Operation → Checked (ArrayMemory × Except Failure Unit)
  | .load program => m.load program
  | .loadFrom deliveries => m.loadFrom deliveries
  | .writeByte addr byte => m.writeByte addr byte
  | .write start data => m.writeBytes start data
  | .reset => do
      let fresh ← m.reset
      return (fresh, .ok ())

def glyphAddress (digit : UInt8) : Checked UInt16 := do
  let offset ← Checked.mul16 5 (digit &&& 0x0F).toUInt16
  Checked.add16 0x50 offset

theorem is_glyph_checked (addr : UInt16) : isGlyph addr = .ok (decide (Memory.InGlyphs addr.toNat)) := by
  have size : Checked.mul16 5 16 = .ok 80 := rfl
  have last : Checked.add16 0x50 80 = .ok 0xA0 := rfl
  simp only [isGlyph, size, last, Checked.ok_bind, Checked.pure_eq, ← Bool.decide_and]
  rfl

theorem is_protected_eq (addr : UInt16) : isProtected addr = decide (Memory.InProgram addr.toNat) := by
  rw [isProtected, ← Bool.decide_and]
  rfl

theorem masked_to_nat (addr : UInt16) : (addr &&& mask).toNat = (Memory.cellAt addr).val := by
  rw [UInt16.toNat_and]
  exact Nat.and_two_pow_sub_one_eq_mod addr.toNat 12

end ArrayMemory

namespace Memory

def array (m : Memory) : ArrayMemory :=
  ⟨decide (m.mode = .strict), List.ofFn m.cell⟩

theorem index_of_permitted (addr : UInt16) (inside : InGlyphs addr.toNat ∨ InProgram addr.toNat) :
    addr.toNat = (cellAt addr).val := by
  have bound : addr.toNat < 4096 := by
    simp only [InGlyphs, InProgram, Glyph.base, programStart, programEnd] at inside
    omega
  exact (Nat.mod_eq_of_lt bound).symm

theorem resolve_read_checked (m : Memory) (addr : UInt16) :
    m.array.resolveRead addr = .ok ((m.mode.readCell addr).map Fin.val) := by
  obtain ⟨mode, cells⟩ := m
  cases mode with
  | lenient =>
      change Except.ok (Except.ok (addr &&& ArrayMemory.mask).toNat) = _
      rw [ArrayMemory.masked_to_nat]
      rfl
  | strict =>
      simp only [ArrayMemory.resolveRead, array, ArrayMemory.is_glyph_checked, ArrayMemory.is_protected_eq,
        Checked.ok_bind, Checked.pure_eq, decide_true, Bool.not_true, Bool.false_eq_true, if_false, Mode.readCell,
        Bool.or_eq_true, decide_eq_true_eq]
      by_cases inside : InGlyphs addr.toNat ∨ InProgram addr.toNat
      · rw [if_pos inside, if_pos inside, index_of_permitted addr inside]
        rfl
      · rw [if_neg inside, if_neg inside]
        rfl

theorem resolve_write_checked (m : Memory) (addr : UInt16) :
    m.array.resolveWrite addr = .ok ((m.mode.writeCell addr).map (Option.map Fin.val)) := by
  obtain ⟨mode, cells⟩ := m
  cases mode with
  | lenient =>
      simp only [ArrayMemory.resolveWrite, array, ArrayMemory.is_glyph_checked, ArrayMemory.masked_to_nat,
        Checked.ok_bind, Checked.pure_eq, reduceCtorEq, decide_false, Bool.false_eq_true, if_false, Mode.writeCell,
        decide_eq_true_eq]
      by_cases glyph : InGlyphs (cellAt addr).val
      · rw [if_pos glyph, if_pos glyph]
        rfl
      · rw [if_neg glyph, if_neg glyph]
        rfl
  | strict =>
      simp only [ArrayMemory.resolveWrite, array, ArrayMemory.is_protected_eq, Checked.pure_eq, decide_true, if_true,
        Mode.writeCell, decide_eq_true_eq]
      by_cases inside : InProgram addr.toNat
      · rw [if_pos inside, if_pos inside, index_of_permitted addr (.inr inside)]
        rfl
      · rw [if_neg inside, if_neg inside]
        rfl

theorem cell_behind (addr : UInt16) (inside : addr.toNat + 1 < 4096) : (cellAt (addr + 1)).val = addr.toNat + 1 := by
  rw [cell_at_val, UInt16.toNat_add]
  change (addr.toNat + 1) % 65536 % 4096 = addr.toNat + 1
  omega

-- The address behind the last one has no successor in 16 bits, but it has one in 32.
theorem next_checked (addr : UInt16) :
    ∃ next, Checked.add32 addr.toUInt32 1 = .ok next ∧ next.toNat = addr.toNat + 1 := by
  have bound : addr.toNat < 65536 := addr.toNat_lt
  refine ⟨addr.toUInt32 + 1, Checked.add32_ok _ _ ?_, ?_⟩
  · change addr.toNat + 1 < 4294967296
    omega
  · rw [UInt32.toNat_add]
    change (addr.toNat + 1) % 4294967296 = addr.toNat + 1
    omega

theorem resolve_fetch_checked (m : Memory) (addr : UInt16) :
    m.array.resolveFetch addr = .ok ((m.mode.fetchCells addr).map fun cells => (cells.1.val, cells.2.val)) := by
  obtain ⟨mode, cells⟩ := m
  cases mode with
  | lenient =>
      change Except.ok (Except.ok ((addr &&& ArrayMemory.mask).toNat, ((addr + 1) &&& ArrayMemory.mask).toNat)) = _
      rw [ArrayMemory.masked_to_nat, ArrayMemory.masked_to_nat]
      rfl
  | strict =>
      obtain ⟨next, added, position⟩ := next_checked addr
      have below : addr < 0x200 ↔ addr.toNat < programStart := Iff.rfl
      have above : 0xF00 ≤ next ↔ programEnd ≤ addr.toNat + 1 := by
        rw [← position]
        rfl
      have odd : addr % 2 ≠ 0 ↔ addr.toNat % 2 ≠ 0 := by
        rw [Ne, ← UInt16.toNat_inj, UInt16.toNat_mod]
        rfl
      simp only [ArrayMemory.resolveFetch, array, added, Checked.ok_bind, Checked.pure_eq, decide_true, Bool.not_true,
        Bool.false_eq_true, if_false, Mode.fetchCells, below, above, odd]
      by_cases low : addr.toNat < programStart
      · rw [if_pos low, if_pos (.inl low)]
        rfl
      · by_cases high : programEnd ≤ addr.toNat + 1
        · rw [if_neg low, if_pos high, if_pos (.inr high)]
          rfl
        · have small : programEnd = 0xF00 := rfl
          have here : (cellAt addr).val = addr.toNat := Nat.mod_eq_of_lt (by omega)
          have behind : (cellAt (addr + 1)).val = addr.toNat + 1 := cell_behind addr (by omega)
          rw [if_neg low, if_neg high, if_neg (not_or.mpr ⟨low, high⟩)]
          by_cases unaligned : addr.toNat % 2 ≠ 0
          · rw [if_pos unaligned, if_pos unaligned]
            rfl
          · rw [if_neg unaligned, if_neg unaligned, Except.map, here, behind]

theorem array_bytes (m : Memory) : m.array.bytes = List.ofFn m.cell := by
  rw [array]

theorem length_array (m : Memory) : m.array.bytes.length = 4096 := by
  rw [array_bytes, List.length_ofFn]

theorem get_checked (m : Memory) (c : Cell) : Checked.get m.array.bytes c.val = .ok (m.cell c) := by
  rw [array_bytes, get_of_fn]

theorem set_checked (m : Memory) (c : Cell) (byte : UInt8) :
    Checked.set m.array.bytes c.val byte = .ok (m.setCell c byte).array.bytes := by
  rw [array_bytes, array_bytes]
  exact set_of_fn m.cell (m.setCell c byte).cell c byte fun d => cell_set_cell m c d byte

theorem word_of_bytes (high low : UInt8) :
    high.toUInt16 <<< 8 ||| low.toUInt16 = UInt16.ofNat (high.toNat * 256 + low.toNat) := by
  have highBound : high.toNat < 256 := high.toNat_lt
  have lowBound : low.toNat < 256 := low.toNat_lt
  apply UInt16.toNat_inj.mp
  have shifted : (high.toUInt16 <<< 8).toNat = high.toNat <<< 8 := by
    rw [UInt16.toNat_shiftLeft]
    change high.toNat <<< 8 % 65536 = high.toNat <<< 8
    rw [Nat.shiftLeft_eq]
    omega
  rw [UInt16.toNat_or, shifted, UInt16.toNat_ofNat']
  change high.toNat <<< 8 ||| low.toNat = _
  rw [← Nat.shiftLeft_add_eq_or_of_lt lowBound, Nat.shiftLeft_eq]
  omega

theorem read_instruction_checked (m : Memory) (addr : UInt16) :
    m.array.readInstruction addr = .ok (m.fetch addr) := by
  rw [ArrayMemory.readInstruction, resolve_fetch_checked, fetch]
  cases m.mode.fetchCells addr with
  | error failure => rfl
  | ok cells =>
      obtain ⟨high, low⟩ := cells
      simp only [Except.map, Checked.ok_bind, get_checked, Checked.pure_eq, word_of_bytes]

theorem read_byte_checked (m : Memory) (addr : UInt16) : m.array.readByte addr = .ok (m.readByte addr) := by
  rw [ArrayMemory.readByte, resolve_read_checked, readByte]
  cases m.mode.readCell addr with
  | error failure => rfl
  | ok cell => simp only [Except.map, Checked.ok_bind, get_checked, Checked.pure_eq]

theorem read_each_checked (m : Memory) (addrs : List UInt16) :
    m.array.readEach addrs = .ok (addrs.mapM m.readByte) := by
  induction addrs with
  | nil => rfl
  | cons addr rest ih =>
      rw [ArrayMemory.readEach, read_byte_checked, ih, List.mapM_cons]
      cases m.readByte addr with
      | error failure => rfl
      | ok byte => cases rest.mapM m.readByte <;> rfl

theorem read_bytes_checked (m : Memory) (start : UInt16) (count : Nat) :
    m.array.readBytes start count = .ok (m.read start count) :=
  read_each_checked m (addresses start count)

theorem resolve_each_checked (m : Memory) (addrs : List UInt16) :
    m.array.resolveEach addrs = .ok ((addrs.mapM m.mode.writeCell).map (List.map (Option.map Fin.val))) := by
  induction addrs with
  | nil => rfl
  | cons addr rest ih =>
      rw [ArrayMemory.resolveEach, resolve_write_checked, ih, List.mapM_cons]
      cases m.mode.writeCell addr with
      | error failure => rfl
      | ok target => cases rest.mapM m.mode.writeCell <;> rfl

theorem store_each_checked (m : Memory) (targets : List (Option Cell × UInt8)) :
    ArrayMemory.storeEach m.array.bytes (targets.map fun target => (target.1.map Fin.val, target.2)) =
      .ok (m.storeAll targets).array.bytes := by
  induction targets generalizing m with
  | nil => rfl
  | cons target rest ih =>
      obtain ⟨cell, byte⟩ := target
      cases cell with
      | none => exact ih m
      | some cell =>
          rw [List.map_cons, Option.map_some, ArrayMemory.storeEach, set_checked, Checked.ok_bind]
          exact ih (m.setCell cell byte)

theorem array_with (m left : Memory) (mode : left.mode = m.mode) :
    ({ m.array with bytes := left.array.bytes } : ArrayMemory) = left.array := by
  rw [array, array, mode]

theorem write_byte_checked (m : Memory) (addr : UInt16) (byte : UInt8) :
    m.array.writeByte addr byte = .ok ((m.writeByte addr byte).1.array, (m.writeByte addr byte).2) := by
  rw [ArrayMemory.writeByte, resolve_write_checked, writeByte]
  cases m.mode.writeCell addr with
  | error failure => rfl
  | ok target =>
      have stored := store_each_checked m [(target, byte)]
      simp only [List.map_cons, List.map_nil] at stored
      simp only [Except.map, Checked.ok_bind, stored, Checked.pure_eq, array_with m _ (store_all_mode m _)]

theorem write_bytes_checked (m : Memory) (start : UInt16) (data : List UInt8) :
    m.array.writeBytes start data = .ok ((m.write start data).1.array, (m.write start data).2) := by
  rw [ArrayMemory.writeBytes, resolve_each_checked, write]
  cases (addresses start data.length).mapM m.mode.writeCell with
  | error failure => rfl
  | ok targets =>
      have stored := store_each_checked m (targets.zip data)
      have zipped : (targets.map (Option.map Fin.val)).zip data =
          (targets.zip data).map fun target => (target.1.map Fin.val, target.2) := List.zip_map_left
      simp only [Except.map, Checked.ok_bind, zipped, stored, Checked.pure_eq, array_with m _ (store_all_mode m _)]

theorem loaded_bytes (m : Memory) (program : List UInt8) (fits : program.length ≤ 3328) :
    ∃ cleared, Checked.fill m.array.bytes 0x200 0xF00 0 = .ok cleared ∧
      Checked.copy cleared 0x200 (0x200 + program.length) program = .ok (m.load program).1.array.bytes := by
  have length := length_array m
  have zeros : 0x200 + (List.replicate (0xF00 - 0x200) (0 : UInt8)).length = 0xF00 := by rw [List.length_replicate]
  have within : 0xF00 ≤ m.array.bytes.length := by omega
  have clearedGet := fun i => spliced_get m.array.bytes (List.replicate (0xF00 - 0x200) 0) 0x200 0xF00 i zeros within
  have clearedLength := length_spliced m.array.bytes (List.replicate (0xF00 - 0x200) 0) 0x200 0xF00 zeros within
  refine ⟨_, Checked.fill_ok m.array.bytes 0x200 0xF00 0 (by decide) within, ?_⟩
  rw [length] at clearedLength
  generalize m.array.bytes.take 0x200 ++ List.replicate (0xF00 - 0x200) 0 ++ m.array.bytes.drop 0xF00 = cleared at *
  have room : 0x200 + program.length ≤ cleared.length := by omega
  refine (Checked.copy_ok cleared 0x200 _ program rfl room).trans (congrArg Except.ok ?_)
  apply eq_of_fn
  · rw [length_spliced cleared program 0x200 _ rfl room, clearedLength]
  · intro c
    rw [spliced_get cleared program 0x200 _ c.val rfl room, clearedGet, load_cell m program fits, array_bytes, of_fn_at,
      List.getElem?_replicate, List.getD_eq_getElem?_getD]
    by_cases inside : 0x200 ≤ c.val ∧ c.val < 0xF00
    · have near : c.val - 0x200 < 0xF00 - 0x200 := by omega
      rw [if_pos inside, if_pos inside, if_pos near]
      by_cases covered : c.val < 0x200 + program.length
      · have position : c.val - 0x200 < program.length := by omega
        rw [if_pos ⟨inside.1, covered⟩, List.getElem?_eq_getElem position]
        rfl
      · have past : program.length ≤ c.val - 0x200 := by omega
        rw [if_neg fun both => covered both.2, List.getElem?_eq_none past]
        rfl
    · have apart : ¬ (0x200 ≤ c.val ∧ c.val < 0x200 + program.length) := by omega
      rw [if_neg apart, if_neg inside, if_neg inside]

theorem load_checked (m : Memory) (program : List UInt8) :
    m.array.load program = .ok ((m.load program).1.array, (m.load program).2) := by
  have limit : Checked.sub16 0xF00 0x200 = .ok 0xD00 := rfl
  have limitVal : (0xD00 : UInt16).toNat = 3328 := rfl
  simp only [ArrayMemory.load, limit, Checked.ok_bind, limitVal]
  by_cases large : 3328 < program.length
  · rw [if_pos large, load_too_large m program large]
    rfl
  · have fits : program.length ≤ 3328 := Nat.not_lt.mp large
    obtain ⟨cleared, filled, copied⟩ := loaded_bytes m program fits
    simp only [if_neg large, filled, copied, Checked.ok_bind, Checked.pure_eq, array_with m _ (load_mode m program),
      (load_ok_iff m program).mpr fits]

theorem load_from_checked (m : Memory) (deliveries : List Delivery) :
    m.array.loadFrom deliveries = .ok ((m.loadFrom deliveries).1.array, (m.loadFrom deliveries).2) := by
  rw [ArrayMemory.loadFrom, loadFrom]
  cases image deliveries with
  | error failure => rfl
  | ok program => exact load_checked m program

theorem glyph_copied (mode : Mode) :
    Checked.copy (List.replicate 4096 0) 0x50 (0x50 + Glyph.bytes.toList.length) Glyph.bytes.toList =
      .ok (fresh mode).array.bytes := by
  have count : Glyph.bytes.toList.length = 80 := rfl
  have zeros : (List.replicate 4096 (0 : UInt8)).length = 4096 := List.length_replicate
  have room : 0x50 + Glyph.bytes.toList.length ≤ (List.replicate 4096 (0 : UInt8)).length := by
    rw [zeros, count]
    decide
  refine (Checked.copy_ok _ 0x50 _ _ rfl room).trans (congrArg Except.ok ?_)
  apply eq_of_fn
  · rw [length_spliced _ _ 0x50 _ rfl room, zeros]
  · intro c
    rw [spliced_get _ _ 0x50 _ c.val rfl room, List.getElem?_replicate, if_pos c.isLt, cell_fresh, initialByte, count]
    by_cases glyph : InGlyphs c.val
    · have bounds : 0x50 ≤ c.val ∧ c.val < 0x50 + 80 := glyph
      have position : c.val - 0x50 < Glyph.bytes.toList.length := by omega
      rw [if_pos bounds, dif_pos glyph, List.getElem?_eq_getElem position, Vector.getElem_toList]
      rfl
    · have apart : ¬ (0x50 ≤ c.val ∧ c.val < 0x50 + 80) := glyph
      rw [if_neg apart, dif_neg glyph]

theorem reset_checked (m : Memory) : m.array.reset = .ok m.reset.array := by
  rw [ArrayMemory.reset, length_array, glyph_copied m.mode]
  exact congrArg Except.ok (array_with m (fresh m.mode) rfl)

theorem fresh_checked (mode : Mode) : ArrayMemory.fresh (decide (mode = .strict)) = .ok (fresh mode).array := by
  have blank : ArrayMemory.mk (decide (mode = .strict)) (List.replicate 4096 0) = array ⟨mode, Cells.fill 12 0⟩ := by
    apply congrArg (ArrayMemory.mk _)
    apply eq_of_fn
    · exact List.length_replicate
    · intro c
      rw [List.getElem?_replicate, if_pos c.isLt, cell, Cells.get_fill]
  rw [ArrayMemory.fresh, blank, reset_checked, reset]

theorem perform_checked (m : Memory) (operation : Operation) :
    m.array.perform operation = .ok ((m.perform operation).1.array, (m.perform operation).2.map fun _ => ()) := by
  cases operation with
  | load program =>
      change m.array.load program = .ok (_, ((m.load program).2.map _).map _)
      rw [load_checked, map_forgotten]
      rfl
  | loadFrom deliveries =>
      rw [ArrayMemory.perform, load_from_checked, perform, loadFrom]
      cases image deliveries with
      | error failure => rfl
      | ok program =>
          change _ = Except.ok (_, ((m.load program).2.map _).map _)
          rw [map_forgotten]
          rfl
  | writeByte addr byte =>
      change m.array.writeByte addr byte = .ok (_, ((m.writeByte addr byte).2.map _).map _)
      rw [write_byte_checked, map_forgotten]
      rfl
  | write start data =>
      change m.array.writeBytes start data = .ok (_, ((m.write start data).2.map _).map _)
      rw [write_bytes_checked, map_forgotten]
      rfl
  | reset =>
      rw [ArrayMemory.perform, reset_checked]
      rfl

theorem glyph_address_checked (digit : UInt8) : ArrayMemory.glyphAddress digit = .ok (Glyph.address digit) := by
  have nibble : (digit &&& 0x0F).toUInt16.toNat = digit.toNat % 16 := by
    rw [UInt8.toNat_toUInt16, Checked.masked_low_nibble]
  have product : (5 * (digit &&& 0x0F).toUInt16).toNat = 5 * (digit.toNat % 16) := by
    rw [UInt16.toNat_mul, nibble]
    change 5 * (digit.toNat % 16) % 65536 = _
    omega
  have offset : Checked.mul16 5 (digit &&& 0x0F).toUInt16 = .ok (5 * (digit &&& 0x0F).toUInt16) := by
    apply Checked.mul16_ok
    rw [nibble]
    change 5 * (digit.toNat % 16) < 65536
    omega
  have fits : (0x50 : UInt16).toNat + (5 * (digit &&& 0x0F).toUInt16).toNat < 65536 := by
    rw [product]
    change 80 + 5 * (digit.toNat % 16) < 65536
    omega
  rw [ArrayMemory.glyphAddress, offset, Checked.ok_bind, Checked.add16_ok _ _ fits]
  congr 1
  apply UInt16.toNat_inj.mp
  rw [UInt16.toNat_add, product, Glyph.address, UInt16.toNat_ofNat']
  rfl

end Memory

end Chip8
