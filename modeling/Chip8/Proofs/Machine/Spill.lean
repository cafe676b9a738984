import Chip8.Proofs.Machine.Glyph
import Chip8.Proofs.Machine.Noninterference
import Chip8.Proofs.Memory.TwelveBits

set_option autoImplicit false

namespace Chip8

-- The cells an operation is to change, if it succeeds. A load and a reset are aimed at all of memory.
def Memory.Operation.AimsAt (c : Cell) : Operation → Prop
  | .load _ | .loadFrom _ | .reset => True
  | .writeByte addr _ => c = cellAt addr
  | .write start data => c ∈ (addresses start data.length).map cellAt

instance (c : Memory.Cell) : (operation : Memory.Operation) → Decidable (operation.AimsAt c)
  | .load _ | .loadFrom _ | .reset => inferInstanceAs (Decidable True)
  | .writeByte _ _ => inferInstanceAs (Decidable (_ = _))
  | .write _ _ => inferInstanceAs (Decidable (_ ∈ _))

theorem Memory.written_aims (start : UInt16) (data : List UInt8) (c : Cell) (byte : UInt8)
    (hit : written start data c = some byte) : c ∈ (addresses start data.length).map cellAt := by
  obtain ⟨_, j, inside, position⟩ := written_behind start data c byte hit
  have address : start + UInt16.ofNat j ∈ addresses start data.length :=
    List.mem_map.mpr ⟨j, List.mem_range.mpr inside, rfl⟩
  exact List.mem_map.mpr ⟨_, address, Fin.ext ((cell_at_address start j).trans position.symm)⟩

theorem Memory.covering_aims (operation : Operation) (c : Cell) (byte : UInt8)
    (hit : operation.covering c = some byte) : operation.AimsAt c := by
  cases operation with
  | writeByte addr other =>
      have aimed := written_aims addr [other] c byte hit
      have only : addresses addr [other].length = [addr] := by simp [addresses]
      rw [only] at aimed
      exact List.mem_singleton.mp aimed
  | write start data => exact written_aims start data c byte hit
  | _ => trivial

namespace Machine

def stepAims (m : Machine) : List Memory.Cell :=
  match m.fetchedWord, m.step.result with
  | some word, .ok _ => cellsFrom m.index word.writes
  | _, _ => []

def AimsAt (m : Machine) (c : Memory.Cell) : Operation → Prop
  | .step => c ∈ m.stepAims
  | .reset => True
  | .memory operation =>
      match (m.memory.perform operation).2 with
      | .ok _ => operation.AimsAt c
      | .error _ => False
  | .tick | .key _ _ | .releaseKeys | .read _ _ => False

instance (m : Machine) (c : Memory.Cell) : (operation : Operation) → Decidable (m.AimsAt c operation)
  | .step => inferInstanceAs (Decidable (_ ∈ _))
  | .reset => inferInstanceAs (Decidable True)
  | .memory operation =>
      match result : (m.memory.perform operation).2 with
      | .ok _ => decidable_of_iff (operation.AimsAt c) (by rw [AimsAt, result])
      | .error _ => isFalse (by rw [AimsAt, result]; exact id)
  | .tick | .key _ _ | .releaseKeys | .read _ _ => inferInstanceAs (Decidable False)

def Spares (m : Machine) (c : Memory.Cell) (history : List Operation) : Prop :=
  m.Throughout (fun machine operation => ¬ machine.AimsAt c operation) history

instance (m : Machine) (c : Memory.Cell) (history : List Operation) : Decidable (m.Spares c history) :=
  inferInstanceAs (Decidable (m.Throughout _ history))

theorem length_stored_bytes (m : Machine) (instruction : Instruction) :
    (m.stored instruction).length = instruction.writes := by
  cases instruction with
  | storeRegs x => exact length_stored m x
  | _ => rfl

theorem overwrites_aims (m : Machine) (c : Memory.Cell) (byte : UInt8) (hit : m.overwrites c = some byte) :
    c ∈ m.stepAims := by
  rw [overwrites] at hit
  rw [stepAims]
  cases fetched : m.fetchedWord with
  | none =>
      rw [fetched] at hit
      cases hit
  | some word =>
      cases result : m.step.result with
      | error failure =>
          rw [fetched, result] at hit
          cases hit
      | ok =>
          rw [fetched, result] at hit
          obtain ⟨_, j, inside, position⟩ := Memory.written_behind m.index _ c byte hit
          rw [length_stored_bytes, (Instruction.decode_fits word).writes] at inside
          exact List.mem_map.mpr ⟨j, List.mem_range.mpr inside, Fin.ext position.symm⟩

theorem overwritten_aims (m : Machine) (c : Memory.Cell) (operation : Operation) (byte : UInt8)
    (hit : m.overwrittenBy c operation = some byte) : m.AimsAt c operation := by
  cases operation with
  | step => exact overwrites_aims m c byte hit
  | reset => trivial
  | memory operation =>
      rw [overwrittenBy] at hit
      rw [AimsAt]
      cases result : (m.memory.perform operation).2 with
      | error failure =>
          rw [result] at hit
          cases hit
      | ok notices =>
          rw [result] at hit
          exact Memory.covering_aims operation c byte hit
  | _ => cases hit

theorem spared_not_overwritten (m : Machine) (c : Memory.Cell) (history : List Operation)
    (spared : m.Spares c history) : m.overwrittenIn c history = none := by
  induction history generalizing m with
  | nil => rfl
  | cons operation rest ih =>
      obtain ⟨notAimed, later⟩ := spared
      have here : m.overwrittenBy c operation = none := by
        cases hit : m.overwrittenBy c operation with
        | none => rfl
        | some byte => exact absurd (overwritten_aims m c operation byte hit) notAimed
      rw [overwrittenIn, ih _ later, here]
      rfl

theorem spared_cell (m : Machine) (c : Memory.Cell) (history : List Operation) (spared : m.Spares c history) :
    (m.after history).memory.cell c = m.memory.cell c := by
  rw [after_cell, spared_not_overwritten m c history spared]
  rfl

theorem stored_cell (m : Machine) (word : Word) (executed : m.Executes word) (c : Memory.Cell) :
    m.step.machine.memory.cell c =
      (Memory.written m.index (m.stored (Instruction.decode word)) c).getD (m.memory.cell c) := by
  rw [step_cell, overwrites, executed.1, executed.2]

theorem executes_load (m : Machine) (word : Word) (executed : m.Executes word) (family : word.toNat / 4096 = 0xF)
    (low : word.toNat % 256 = 0x65) :
    m.step.machine = (m.advance word).setRegisters (Word.x word) (m.bytesBehind ((Word.x word).val + 1)) := by
  have effect := executes_spelled m word _ executed (.loadRegs family low)
  cases taken : m.memory.read m.index ((Word.x word).val + 1) with
  | error failure =>
      have same : (m.advance word).memory.read (m.advance word).index ((Word.x word).val + 1) = .error failure := taken
      rw [execute, same] at effect
      cases congrArg Prod.snd effect
  | ok bytes =>
      have same : (m.advance word).memory.read (m.advance word).index ((Word.x word).val + 1) = .ok bytes := taken
      rw [execute, same, Memory.read_ok m.memory m.index _ bytes taken] at effect
      exact (congrArg Prod.fst effect).symm

theorem loaded_register (m : Machine) (word : Word) (executed : m.Executes word) (family : word.toNat / 4096 = 0xF)
    (low : word.toNat % 256 = 0x65) (r : Nibble) (inside : r ≤ Word.x word) :
    m.step.machine.register r = m.memory.cell (Memory.Cell.low (m.index.toNat + r.val)) := by
  have below : r.val ≤ (Word.x word).val := inside
  rw [executes_load m word executed family low]
  change (Bank.ofFn _).get r = _
  rw [Bank.get_of_fn, if_pos below, List.getD_eq_getElem?_getD, bytesBehind, List.getElem?_map,
    List.getElem?_range (Nat.lt_succ_of_le below)]
  rfl

-- A later load of registers, through an index that lands on the same cells, when no operation in between was aimed at
-- them.
structure Reloads (m : Machine) (start : UInt16) (count : Nat) (history : List Operation) (word : Word) : Prop where
  spared : ∀ j, j < count → m.Spares (Memory.Cell.low (start.toNat + j)) history
  executed : (m.after history).Executes word
  family : word.toNat / 4096 = 0xF
  low : word.toNat % 256 = 0x65
  near : Memory.Congruent (m.after history).index start

theorem reloaded_register (m : Machine) (start : UInt16) (count : Nat) (history : List Operation) (word : Word)
    (reloads : m.Reloads start count history word) (r : Nibble) (inside : r ≤ Word.x word) (stored : r.val < count) :
    (m.after history).step.machine.register r = m.memory.cell (Memory.Cell.low (start.toNat + r.val)) := by
  have same : Memory.Cell.low ((m.after history).index.toNat + r.val) = Memory.Cell.low (start.toNat + r.val) := by
    have near : (m.after history).index.toNat % 4096 = start.toNat % 4096 := reloads.near
    rw [Memory.cell_low_eq_iff]
    omega
  rw [loaded_register _ word reloads.executed reloads.family reloads.low r inside, same,
    spared_cell m _ history (reloads.spared r.val stored)]

theorem stored_comes_back (m : Machine) (word later : Word) (executed : m.Executes word) (data : List UInt8)
    (stored : m.stored (Instruction.decode word) = data) (fits : data.length ≤ 16) (history : List Operation)
    (reloads : m.step.machine.Reloads m.index data.length history later) (r : Nibble) (inside : r ≤ Word.x later)
    (among : r.val < data.length) :
    (m.step.machine.after history).step.machine.register r =
      if Memory.InGlyphs (Memory.Cell.low (m.index.toNat + r.val)).val then
        m.memory.cell (Memory.Cell.low (m.index.toNat + r.val))
      else data[r.val] := by
  rw [reloaded_register m.step.machine m.index data.length history later reloads r inside among,
    stored_cell m word executed, stored]
  by_cases glyph : Memory.InGlyphs (Memory.Cell.low (m.index.toNat + r.val)).val
  · rw [if_pos glyph, Memory.written, if_pos glyph]
    rfl
  · rw [if_neg glyph, Memory.written_at m.index data (by omega) r.val among glyph]
    rfl

theorem strict_stores_plain (m : Machine) (strict : m.memory.mode = .strict) (word : Word) (executed : m.Executes word)
    (j : Nat) (inside : j < word.writes) : ¬ Memory.InGlyphs (Memory.Cell.low (m.index.toNat + j)).val := by
  have stores := execute_stores (m.advance word) (Instruction.decode word) (by rw [executes_done m word executed])
  rw [← (Instruction.decode_fits word).writes, ← length_stored_bytes (m.advance word)] at inside
  have within := Memory.strict_write_inside m.memory strict m.index _ stores j inside
  intro glyph
  have low : 0x50 ≤ (m.index.toNat + j) % 4096 ∧ (m.index.toNat + j) % 4096 < 0x50 + 80 := glyph
  rw [Memory.Writable] at within
  omega

theorem transfer_keeps_index (m : Machine) (word : Word) (executed : m.Executes word)
    (family : word.toNat / 4096 = 0xF) (low : word.toNat % 256 ∈ [0x33, 0x55, 0x65]) :
    m.step.machine.index = m.index := by
  simp only [List.mem_cons, List.not_mem_nil, or_false] at low
  have outside : ¬ word.Footprint m.index .index := by
    simp only [Word.Footprint, List.mem_cons, List.not_mem_nil, or_false]
    omega
  have kept : SameAt m m.step.machine .index := step_frame m word executed.1 .index outside
  exact kept.symm

theorem registers_get (m : Machine) (x r : Nibble)
    (inside : r.val < (m.registers.toList.take (x.val + 1)).length) :
    (m.registers.toList.take (x.val + 1))[r.val] = m.register r := by
  simp [Bank.toList, Nibble.all, Nibble.low_val, register]

theorem digits_value (byte : UInt8) :
    ((byte / 100).toNat ≤ 9 ∧ (byte / 10 % 10).toNat ≤ 9 ∧ (byte % 10).toNat ≤ 9) ∧
      100 * (byte / 100).toNat + 10 * (byte / 10 % 10).toNat + (byte % 10).toNat = byte.toNat := by
  have bound : byte.toNat < 256 := byte.toNat_lt
  have hundreds : (byte / 100).toNat = byte.toNat / 100 := UInt8.toNat_div byte 100
  have tens : (byte / 10 % 10).toNat = byte.toNat / 10 % 10 := by
    rw [UInt8.toNat_mod, UInt8.toNat_div]
    rfl
  have ones : (byte % 10).toNat = byte.toNat % 10 := UInt8.toNat_mod byte 10
  omega

theorem registers_come_back (m : Machine) (word later : Word) (executed : m.Executes word)
    (family : word.toNat / 4096 = 0xF) (low : word.toNat % 256 = 0x55) (history : List Operation)
    (reloads : m.step.machine.Reloads m.index ((Word.x word).val + 1) history later)
    (narrow : Word.x later ≤ Word.x word) (r : Nibble) (inside : r ≤ Word.x later) :
    (m.step.machine.after history).step.machine.register r =
      if Memory.InGlyphs (Memory.Cell.low (m.index.toNat + r.val)).val then
        m.memory.cell (Memory.Cell.low (m.index.toNat + r.val))
      else m.register r := by
  have stored : m.stored (Instruction.decode word) = m.registers.toList.take ((Word.x word).val + 1) := by
    rw [Instruction.decode_of_spells word _ (.storeRegs family low)]
    rfl
  have among : r.val < (Word.x word).val + 1 := Nat.lt_succ_of_le (Nat.le_trans inside narrow)
  have length := length_stored m (Word.x word)
  rw [← length] at reloads among
  rw [stored_comes_back m word later executed _ stored (by omega) history reloads r inside among, registers_get]

theorem digits_come_back (m : Machine) (word later : Word) (executed : m.Executes word)
    (family : word.toNat / 4096 = 0xF) (low : word.toNat % 256 = 0x33)
    (plain : ∀ j, j < 3 → ¬ Memory.InGlyphs (Memory.Cell.low (m.index.toNat + j)).val) (history : List Operation)
    (reloads : m.step.machine.Reloads m.index 3 history later) (wide : 2 ≤ (Word.x later).val) (r : Nibble)
    (digit : r.val < 3) :
    (m.step.machine.after history).step.machine.register r =
      (decimalDigits (m.register (Word.x word))).get ⟨r.val, digit⟩ := by
  have stored : m.stored (Instruction.decode word) = decimalDigits (m.register (Word.x word)) := by
    rw [Instruction.decode_of_spells word _ (.storeBcd family low)]
    rfl
  have few : (decimalDigits (m.register (Word.x word))).length ≤ 16 := Nat.le_of_ble_eq_true rfl
  have inside : r ≤ Word.x later := Nat.le_trans (Nat.le_of_lt_succ digit) wide
  rw [stored_comes_back m word later executed _ stored few history reloads r inside digit, if_neg (plain r.val digit)]
  rfl

theorem spilled_values_come_back (m : Machine) (word : Word) (executed : m.Executes word)
    (family : word.toNat / 4096 = 0xF) :
    (word.toNat % 256 = 0x55 →
      (∀ history later, m.step.machine.Reloads m.index ((Word.x word).val + 1) history later →
        Word.x later ≤ Word.x word → ∀ r, r ≤ Word.x later →
          let c := Memory.Cell.low (m.index.toNat + r.val)
          let loaded := (m.step.machine.after history).step.machine.register r
          (¬ Memory.InGlyphs c.val → loaded = m.register r) ∧
          (Memory.InGlyphs c.val → loaded = m.memory.cell c ∧ (m.Reachable → loaded = Memory.initialByte c))) ∧
      (m.memory.mode = .strict →
        ∀ r, r ≤ Word.x word → ¬ Memory.InGlyphs (Memory.Cell.low (m.index.toNat + r.val)).val)) ∧
    (word.toNat % 256 = 0x33 →
      (∀ j, j < 3 → ¬ Memory.InGlyphs (Memory.Cell.low (m.index.toNat + j)).val) →
      ∀ history later, m.step.machine.Reloads m.index 3 history later → 2 ≤ (Word.x later).val →
        let digit := fun j => ((m.step.machine.after history).step.machine.register (Nibble.low j)).toNat
        (digit 0 ≤ 9 ∧ digit 1 ≤ 9 ∧ digit 2 ≤ 9) ∧
          100 * digit 0 + 10 * digit 1 + digit 2 = (m.register (Word.x word)).toNat) ∧
    (word.toNat % 256 ∈ [0x33, 0x55, 0x65] → m.step.machine.index = m.index) := by
  refine ⟨?_, ?_, transfer_keeps_index m word executed family⟩
  · intro low
    refine ⟨?_, ?_⟩
    · intro history later reloads narrow r inside c loaded
      have value := registers_come_back m word later executed family low history reloads narrow r inside
      refine ⟨fun plain => value.trans (if_neg plain), ?_⟩
      intro glyph
      have kept : loaded = m.memory.cell c := value.trans (if_pos glyph)
      exact ⟨kept, fun reachable => kept.trans (reachable_holds_glyphs m reachable c glyph)⟩
    · intro strict r inside
      have writes : word.writes = (Word.x word).val + 1 := by simp [Word.writes, family, low, Word.x, Nibble.low]
      exact strict_stores_plain m strict word executed r.val (by rw [writes]; exact Nat.lt_succ_of_le inside)
  · intro low plain history later reloads wide
    have digits := digits_come_back m word later executed family low plain history reloads wide
    simp only [digits (Nibble.low 0) (by decide), digits (Nibble.low 1) (by decide), digits (Nibble.low 2) (by decide)]
    exact digits_value (m.register (Word.x word))

-- V0 to V3 are stored through 0x109E, across the end of the glyphs, and loaded through 0x09E; then the digits of V3 are
-- stored at 0x300 and loaded.
def spilling : Machine :=
  (ofConfig {} (Random.key 0)).after
    (.memory (.load [0x65, 0x9F, 0x62, 0x22, 0x63, 0x33, 0xAF, 0xFF, 0xF5, 0x1E, 0xF3, 0x55, 0x63, 0x00, 0xA0, 0x9E,
      0xF3, 0x65, 0xA3, 0x00, 0xF3, 0x33, 0xF2, 0x65]) :: List.replicate 5 .step)

def spillingRun : List Operation :=
  [.step, .tick, .memory (.write 0xA2 [9, 9]), .key 7 true, .step]

def spellingOut : Machine :=
  spilling.after (.step :: spillingRun ++ [.step, .step])

theorem spill_across_glyphs_comes_back :
    spilling.Executes 0xF355 ∧ spilling.step.machine.Reloads spilling.index 4 spillingRun 0xF365 ∧
      (spilling.step.machine.after spillingRun).step.machine.register (Nibble.low 1) = 0x80 ∧
      (spilling.step.machine.after spillingRun).step.machine.register (Nibble.low 3) = 0x33 ∧
      spellingOut.Executes 0xF333 ∧ spellingOut.step.machine.Reloads spellingOut.index 3 [] 0xF265 ∧
      100 * (spellingOut.step.machine.step.machine.register (Nibble.low 0)).toNat +
          10 * (spellingOut.step.machine.step.machine.register (Nibble.low 1)).toNat +
          (spellingOut.step.machine.step.machine.register (Nibble.low 2)).toNat = 51 ∧
      spellingOut.step.machine.index = 0x300 := by
  have executed : spilling.Executes 0xF355 := ⟨by decide +kernel, by decide +kernel⟩
  have reloads : spilling.step.machine.Reloads spilling.index 4 spillingRun 0xF365 :=
    { spared := by decide +kernel
      executed := ⟨by decide +kernel, by decide +kernel⟩
      family := rfl
      low := rfl
      near := by
        rw [Memory.Congruent]
        decide +kernel }
  have spells : spellingOut.Executes 0xF333 := ⟨by decide +kernel, by decide +kernel⟩
  have respells : spellingOut.step.machine.Reloads spellingOut.index 3 [] 0xF265 :=
    { spared := fun _ _ => trivial
      executed := ⟨by decide +kernel, by decide +kernel⟩
      family := rfl
      low := rfl
      near := by
        rw [Memory.Congruent]
        decide +kernel }
  obtain ⟨stores, _, _⟩ := spilled_values_come_back spilling 0xF355 executed rfl
  obtain ⟨comesBack, _⟩ := stores rfl
  obtain ⟨_, digits, keeps⟩ := spilled_values_come_back spellingOut 0xF333 spells rfl
  have glyph := comesBack spillingRun 0xF365 reloads (by decide) (Nibble.low 1) (by decide)
  have plain := comesBack spillingRun 0xF365 reloads (by decide) (Nibble.low 3) (by decide)
  have reachable : spilling.Reachable := ⟨_, _, _, rfl⟩
  have inGlyphs : Memory.InGlyphs (Memory.Cell.low (spilling.index.toNat + (Nibble.low 1).val)).val := by decide +kernel
  have behind : ¬ Memory.InGlyphs (Memory.Cell.low (spilling.index.toNat + (Nibble.low 3).val)).val := by
    decide +kernel
  have value : Memory.initialByte (Memory.Cell.low (spilling.index.toNat + (Nibble.low 1).val)) = 0x80 := by
    decide +kernel
  have stored : spilling.register (Nibble.low 3) = 0x33 := by decide +kernel
  have spelled : (spellingOut.register (Word.x 0xF333)).toNat = 51 := by decide +kernel
  have index : spellingOut.index = 0x300 := by decide +kernel
  obtain ⟨_, sum⟩ := digits rfl (by decide +kernel) [] 0xF265 respells (by decide)
  exact ⟨executed, reloads, ((glyph.2 inGlyphs).2 reachable).trans value, (plain.1 behind).trans stored, spells,
    respells, sum.trans spelled, (keeps (by decide)).trans index⟩

end Machine

end Chip8
