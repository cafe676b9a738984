import Chip8.Proofs.Memory.Effect
import Chip8.Proofs.Memory.Lenient

set_option autoImplicit false

namespace Chip8.Memory

theorem store_all_mode (m : Memory) (targets : List (Option Cell × UInt8)) : (m.storeAll targets).mode = m.mode := by
  induction targets generalizing m with
  | nil => rfl
  | cons target rest ih =>
      obtain ⟨cell | cell, byte⟩ := target
      · exact ih m
      · exact ih (m.setCell cell byte)

theorem write_mode (m : Memory) (start : UInt16) (data : List UInt8) : (m.write start data).1.mode = m.mode := by
  rw [write]
  cases (addresses start data.length).mapM m.mode.writeCell with
  | error failure => rfl
  | ok targets => exact store_all_mode m (targets.zip data)

theorem load_mode (m : Memory) (program : List UInt8) : (m.load program).1.mode = m.mode := by
  rw [load]
  split <;> rfl

def HoldsInitial (area : Cell → Prop) (m : Memory) : Prop :=
  ∀ c, area c → m.cell c = initialByte c

structure Shielded (mode : Mode) (area : Cell → Prop) : Prop where
  unwritten : ∀ addr c, mode.writeCell addr = .ok (some c) → ¬ area c
  unloaded : ∀ c, area c → ¬ InProgram c.val

theorem fresh_holds_initial (area : Cell → Prop) (mode : Mode) : (fresh mode).HoldsInitial area :=
  fun c _ => cell_fresh mode c

theorem write_holds_initial (area : Cell → Prop) (m : Memory) (start : UInt16) (data : List UInt8)
    (shielded : Shielded m.mode area) (holds : m.HoldsInitial area) :
    (m.write start data).1.HoldsInitial area := by
  intro c inside
  rw [write_keeps m start data c fun addr accepted => shielded.unwritten addr c accepted inside]
  exact holds c inside

theorem load_holds_initial (area : Cell → Prop) (m : Memory) (program : List UInt8)
    (shielded : Shielded m.mode area) (holds : m.HoldsInitial area) : (m.load program).1.HoldsInitial area := by
  intro c inside
  rw [load_keeps m program c (shielded.unloaded c inside)]
  exact holds c inside

theorem perform_mode (m : Memory) (operation : Operation) : (m.perform operation).1.mode = m.mode := by
  cases operation with
  | load program => exact load_mode m program
  | loadFrom deliveries =>
      rw [perform]
      cases image deliveries with
      | error failure => rfl
      | ok program => exact load_mode m program
  | writeByte addr byte =>
      rw [perform_write_byte]
      exact write_mode m addr [byte]
  | write start data => exact write_mode m start data
  | reset => rfl

theorem perform_holds_initial (area : Cell → Prop) (m : Memory) (operation : Operation)
    (shielded : Shielded m.mode area) (holds : m.HoldsInitial area) :
    (m.perform operation).1.HoldsInitial area := by
  cases operation with
  | load program => exact load_holds_initial area m program shielded holds
  | loadFrom deliveries =>
      rw [perform]
      cases image deliveries with
      | error failure => exact holds
      | ok program => exact load_holds_initial area m program shielded holds
  | writeByte addr byte =>
      rw [perform_write_byte]
      exact write_holds_initial area m addr [byte] shielded holds
  | write start data => exact write_holds_initial area m start data shielded holds
  | reset => exact fresh_holds_initial area m.mode

-- Glyphs are shielded in both modes; strict memory shields all but the program area.
theorem glyphs_shielded (mode : Mode) : Shielded mode fun c => InGlyphs c.val where
  unwritten := by
    intro addr c accepted
    have lenient := Mode.write_cell_lenient mode addr (some c) accepted
    simp only [Mode.writeCell, Except.ok.injEq] at lenient
    by_cases glyph : InGlyphs (cellAt addr).val
    · simp [glyph] at lenient
    · rw [if_neg glyph] at lenient
      rw [← Option.some.inj lenient]
      exact glyph
  unloaded := by
    intro c glyph program
    obtain ⟨_, below⟩ := glyph
    obtain ⟨start, _⟩ := program
    simp only [Glyph.base, programStart] at below start
    omega

theorem surroundings_shielded : Shielded .strict fun c => ¬ InProgram c.val where
  unwritten := by
    intro addr c accepted outside
    simp only [Mode.writeCell] at accepted
    by_cases inside : InProgram addr.toNat
    · rw [if_pos inside] at accepted
      cases accepted
      have bounds := inside
      simp only [InProgram, programStart, programEnd] at bounds
      have same : (cellAt addr).val = addr.toNat := Nat.mod_eq_of_lt (by omega)
      rw [same] at outside
      exact outside inside
    · rw [if_neg inside] at accepted
      cases accepted
  unloaded := fun _ outside => outside

end Chip8.Memory
