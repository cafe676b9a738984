import Chip8.Proofs.Machine.Fault
import Chip8.Proofs.Machine.Store
import Chip8.Proofs.Memory.Glyph
import Chip8.Proofs.Screen.Sprite

set_option autoImplicit false

namespace Chip8.Machine

theorem reachable_holds_glyphs (m : Machine) (reachable : m.Reachable) : m.memory.HoldsGlyphs := by
  obtain ⟨config, entropy, history, rfl⟩ := reachable
  exact after_holds_initial _ _ history (Memory.glyphs_shielded config.mode)
    (Memory.fresh_holds_initial _ config.mode)

theorem step_load_glyph (m : Machine) (word : Word) (fetched : m.fetchedWord = some word)
    (family : word.toNat / 4096 = 0xF) (low : word.toNat % 256 = 0x29) :
    m.step.result = .ok () ∧
      m.step.machine = { m.advance word with index := Glyph.address (m.register (Word.x word)) } := by
  have executed : execute (m.advance word) (Instruction.decode word) =
      ({ m.advance word with index := Glyph.address (m.register (Word.x word)) }, .ok ()) := by
    rw [Instruction.decode_load_glyph word family low]
    rfl
  rw [step_done m _ word ((fetched_word_iff m word).mp fetched) executed]
  exact ⟨rfl, rfl⟩

theorem step_draw (m : Machine) (word : Word) (rows : List UInt8) (fetched : m.fetchedWord = some word)
    (family : word.toNat / 4096 = 0xD) (taken : m.memory.read m.index (word.toNat % 16) = .ok rows) :
    let drawn := m.screen.draw (m.register (Word.x word)) (m.register (Word.y word)) rows
    m.step.result = .ok () ∧ m.step.machine.screen = drawn.1 ∧
      m.step.machine.register flagRegister = drawn.2.toUInt8 := by
  intro drawn
  have same : (m.advance word).memory.read (m.advance word).index (Word.n word).val = .ok rows := taken
  have executed : (execute (m.advance word) (Instruction.decode word)).2 = .ok () := by
    rw [Instruction.decode_draw word family, execute, same]
    rfl
  rw [step_done m _ word ((fetched_word_iff m word).mp fetched) (Prod.ext rfl executed)]
  rw [Instruction.decode_draw word family, execute, same]
  exact ⟨rfl, rfl, Bank.get_set_self m.registers flagRegister _⟩

theorem length_glyph_rows (digit : Nibble) : (Glyph.rows digit).length = 5 := by
  revert digit
  decide

theorem glyphs_stay_drawable (m : Machine) (reachable : m.Reachable) :
    (∀ i : Fin 80, m.memory.cell (Memory.Cell.low (0x50 + i.val)) = Glyph.bytes.get i) ∧
    ∀ first : Word, m.fetchedWord = some first → first.toNat / 4096 = 0xF → first.toNat % 256 = 0x29 →
      m.step.result = .ok () ∧
      ∀ second : Word, m.step.machine.fetchedWord = some second → second.toNat / 4096 = 0xD →
        second.toNat % 16 = 5 →
        let drawn := m.step.machine.step.machine
        let hits := Screen.hits (m.register (Word.x second)) (m.register (Word.y second))
          (Glyph.rows (Nibble.low (m.register (Word.x first)).toNat))
        m.step.machine.step.result = .ok () ∧
        (∀ c, (drawn.screen.value c = Screen.litValue ∨ drawn.screen.value c = Screen.darkValue) ∧
          (drawn.screen.value c = Screen.litValue ↔ ¬ (m.screen.value c = Screen.litValue ↔ hits c = 1))) ∧
        (drawn.register flagRegister = 0 ∨ drawn.register flagRegister = 1) ∧
        (drawn.register flagRegister = 1 ↔ ∃ c, hits c = 1 ∧ m.screen.value c = Screen.litValue) := by
  have holds := reachable_holds_glyphs m reachable
  refine ⟨Memory.glyph_cell m.memory holds, ?_⟩
  intro first fetched family low
  obtain ⟨loaded, left⟩ := step_load_glyph m first fetched family low
  refine ⟨loaded, ?_⟩
  intro second drawFetched drawFamily height drawn hits
  have taken : m.step.machine.memory.read m.step.machine.index (second.toNat % 16) =
      .ok (Glyph.rows (Nibble.low (m.register (Word.x first)).toNat)) := by
    rw [height, left]
    exact Memory.read_glyph m.memory holds (m.register (Word.x first))
  obtain ⟨stepped, screen, flag⟩ := step_draw m.step.machine second _ drawFetched drawFamily taken
  have sameScreen : m.step.machine.screen = m.screen := by
    rw [left]
    rfl
  have sameRegisters : ∀ r, m.step.machine.register r = m.register r := by
    intro r
    rw [left]
    rfl
  rw [sameScreen, sameRegisters, sameRegisters] at screen flag
  have few : (Glyph.rows (Nibble.low (m.register (Word.x first)).toNat)).length ≤ 32 := by
    rw [length_glyph_rows]
    decide
  obtain ⟨pixels, collided⟩ := Screen.draw_few m.screen (m.register (Word.x second)) (m.register (Word.y second)) _ few
  have bits : ∀ collided : Bool, (collided.toUInt8 = 0 ∨ collided.toUInt8 = 1) ∧
      (collided.toUInt8 = 1 ↔ collided = true) := by decide
  obtain ⟨bit, set⟩ := bits (m.screen.draw (m.register (Word.x second)) (m.register (Word.y second))
    (Glyph.rows (Nibble.low (m.register (Word.x first)).toNat))).2
  refine ⟨stepped, ?_, ?_, ?_⟩
  · intro c
    refine ⟨ite_eq_or_eq _ _ _, ?_⟩
    rw [screen]
    exact pixels c
  · rw [flag]
    exact bit
  · rw [flag, set]
    exact collided

-- On a strict machine the digit A is drawn in the corner, and is about to be drawn again one column to the right.
def digitA : Machine :=
  (ofConfig { mode := .strict } (Random.key 0)).after
    [.memory (.load [0x60, 0x0A, 0xF0, 0x29, 0xD1, 0x25, 0x61, 0x01, 0xF0, 0x29, 0xD1, 0x25]),
      .memory (.write 0x4E [1, 2, 3, 4]), .step, .step, .step, .step]

theorem digit_a_drawn :
    digitA.Reachable ∧ digitA.step.machine.step.result = .ok () ∧
      digitA.step.machine.step.machine.screen.value (Screen.pixelAt 0 0) = Screen.litValue ∧
      digitA.step.machine.step.machine.screen.value (Screen.pixelAt 1 0) = Screen.darkValue ∧
      digitA.step.machine.step.machine.screen.value (Screen.pixelAt 4 0) = Screen.litValue ∧
      digitA.step.machine.step.machine.register flagRegister = 1 := by
  have reachable : digitA.Reachable := ⟨_, _, _, rfl⟩
  obtain ⟨_, loads⟩ := glyphs_stay_drawable digitA reachable
  obtain ⟨_, draws⟩ := loads 0xF029 (by decide +kernel) rfl rfl
  obtain ⟨stepped, pixels, _, flag⟩ := draws 0xD125 (by decide +kernel) rfl rfl
  have column : digitA.register (Word.x 0xD125) = 1 := by decide +kernel
  have row : digitA.register (Word.y 0xD125) = 0 := by decide +kernel
  have rows : Glyph.rows (Nibble.low (digitA.register (Word.x 0xF029)).toNat) = [0xF0, 0x90, 0xF0, 0x90, 0x90] := by
    decide +kernel
  simp only [column, row, rows] at pixels flag
  have corner : digitA.screen.value (Screen.pixelAt 0 0) = Screen.litValue ∧
      Screen.hits 1 0 [0xF0, 0x90, 0xF0, 0x90, 0x90] (Screen.pixelAt 0 0) = 0 := by decide +kernel
  have next : digitA.screen.value (Screen.pixelAt 1 0) = Screen.litValue ∧
      Screen.hits 1 0 [0xF0, 0x90, 0xF0, 0x90, 0x90] (Screen.pixelAt 1 0) = 1 := by decide +kernel
  have right : digitA.screen.value (Screen.pixelAt 4 0) ≠ Screen.litValue ∧
      Screen.hits 1 0 [0xF0, 0x90, 0xF0, 0x90, 0x90] (Screen.pixelAt 4 0) = 1 := by decide +kernel
  refine ⟨reachable, stepped, ?_, ?_, ?_, flag.mpr ⟨Screen.pixelAt 1 0, next.2, next.1⟩⟩
  · rw [(pixels _).2, corner.2]
    simp [corner.1]
  · apply (pixels (Screen.pixelAt 1 0)).1.resolve_left
    rw [(pixels _).2, next.2]
    simp [next.1]
  · rw [(pixels _).2, right.2]
    simp [right.1]

end Chip8.Machine
