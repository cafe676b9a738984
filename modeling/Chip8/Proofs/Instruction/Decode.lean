import Chip8.Proofs.Instruction.Spelling

set_option autoImplicit false

namespace Chip8

inductive Peripheral where
  | timers
  | keypad
deriving DecidableEq

namespace Word

-- Dxyn and Fx65.
def reads (w : Word) : Nat :=
  if w.toNat / 4096 = 0xD then w.toNat % 16
  else if w.toNat / 4096 = 0xF ∧ w.toNat % 256 = 0x65 then w.toNat / 256 % 16 + 1
  else 0

-- Fx33 and Fx55.
def writes (w : Word) : Nat :=
  if w.toNat / 4096 = 0xF ∧ w.toNat % 256 = 0x33 then 3
  else if w.toNat / 4096 = 0xF ∧ w.toNat % 256 = 0x55 then w.toNat / 256 % 16 + 1
  else 0

-- Fx07, Fx15 and Fx18; Ex9E, ExA1 and Fx0A.
def peripheral (w : Word) : Option Peripheral :=
  if w.toNat / 4096 = 0xF ∧ w.toNat % 256 ∈ [0x07, 0x15, 0x18] then some .timers
  else if w.toNat / 4096 = 0xE ∧ w.toNat % 256 ∈ [0x9E, 0xA1] ∨
      w.toNat / 4096 = 0xF ∧ w.toNat % 256 = 0x0A then some .keypad
  else none

end Word

namespace Instruction

def reads : Instruction → Nat
  | .draw _ _ n => n.val
  | .loadRegs x => x.val + 1
  | _ => 0

def writes : Instruction → Nat
  | .storeBcd _ => 3
  | .storeRegs x => x.val + 1
  | _ => 0

def IsCall (instruction : Instruction) : Prop :=
  ∃ nnn, instruction = .call nnn

structure Fits (w : Word) (instruction : Instruction) : Prop where
  reads : instruction.reads = w.reads
  writes : instruction.writes = w.writes
  returns : instruction = .ret ↔ w = 0x00EE
  calls : instruction.IsCall ↔ w.toNat / 4096 = 2

theorem ne_return (w : Word) (family : w.toNat / 4096 ≠ 0) : w ≠ 0x00EE := by
  rintro rfl
  exact family rfl

theorem fits_plain (w : Word) (instruction : Instruction) (reads : instruction.reads = 0)
    (writes : instruction.writes = 0) (returns : instruction ≠ .ret) (calls : ¬ instruction.IsCall)
    (family : w.toNat / 4096 ∉ [0, 2, 0xD, 0xF]) : Fits w instruction := by
  simp only [List.mem_cons, List.not_mem_nil, or_false, not_or] at family
  have noReturn := ne_return w family.1
  exact
    { reads := by simp [reads, Word.reads, family]
      writes := by simp [writes, Word.writes, family]
      returns := by simp [returns, noReturn]
      calls := by simp [calls, family] }

theorem fits_misc (w : Word) (instruction : Instruction) (reads : instruction.reads = w.reads)
    (writes : instruction.writes = w.writes) (returns : instruction ≠ .ret) (calls : ¬ instruction.IsCall)
    (family : w.toNat / 4096 = 0xF) : Fits w instruction := by
  have noReturn := ne_return w (by simp [family])
  exact
    { reads := reads
      writes := writes
      returns := by simp [returns, noReturn]
      calls := by simp [calls, family] }

theorem spelled_fits (w : Word) (instruction : Instruction) (spelled : Spells w instruction) : Fits w instruction := by
  cases spelled with
  | clearScreen whole =>
      subst whole
      exact ⟨rfl, rfl, by decide, by simp [IsCall]⟩
  | ret whole =>
      subst whole
      exact ⟨rfl, rfl, by simp, by simp [IsCall]⟩
  | unknownSystem family notClear notReturn =>
      exact ⟨by simp [reads, Word.reads, family], by simp [writes, Word.writes, family], by simp [notReturn],
        by simp [IsCall, family]⟩
  | call family =>
      have noReturn := ne_return w (by simp [family])
      exact ⟨by simp [reads, Word.reads, family], by simp [writes, Word.writes, family], by simp [noReturn],
        by simp [IsCall, family]⟩
  | draw family =>
      have noReturn := ne_return w (by simp [family])
      exact ⟨by simp [reads, Word.reads, family, Word.n_val], by simp [writes, Word.writes, family],
        by simp [noReturn], by simp [IsCall, family]⟩
  | loadDelay family low | waitKey family low | setDelay family low | setSound family low | addIndex family low
  | loadGlyph family low | storeBcd family low | storeRegs family low | loadRegs family low =>
      apply fits_misc w _ _ _ (by simp) (by simp [IsCall]) family
      · simp [reads, Word.reads, family, low, Word.x, Nibble.low]
      · simp [writes, Word.writes, family, low, Word.x, Nibble.low]
  | unknownMisc family low =>
      simp only [List.mem_cons, List.not_mem_nil, or_false, not_or] at low
      apply fits_misc w _ _ _ (by simp) (by simp [IsCall]) family
      · simp [reads, Word.reads, family, low]
      · simp [writes, Word.writes, family, low]
  | _ family => exact fits_plain w _ rfl rfl (by simp) (by simp [IsCall]) (by simp [family])

theorem decode_fits (w : Word) : Fits w (decode w) :=
  spelled_fits w (decode w) (decode_spells w)

def peripheral : Instruction → Option Peripheral
  | .loadDelay _ | .setDelay _ | .setSound _ => some .timers
  | .skipKeyDown _ | .skipKeyUp _ | .waitKey _ => some .keypad
  | _ => none

theorem spelled_peripheral (w : Word) (instruction : Instruction) (spelled : Spells w instruction) :
    instruction.peripheral = w.peripheral := by
  cases spelled with
  | clearScreen whole | ret whole =>
      subst whole
      rfl
  | unknownKey family low | unknownMisc family low =>
      simp only [List.mem_cons, List.not_mem_nil, or_false, not_or] at low
      simp [peripheral, Word.peripheral, family, low]
  | skipKeyDown family low | skipKeyUp family low | loadDelay family low | waitKey family low | setDelay family low
  | setSound family low | addIndex family low | loadGlyph family low | storeBcd family low | storeRegs family low
  | loadRegs family low => simp [peripheral, Word.peripheral, family, low]
  | _ family => simp [peripheral, Word.peripheral, family]

theorem decode_peripheral (w : Word) : (decode w).peripheral = w.peripheral :=
  spelled_peripheral w (decode w) (decode_spells w)

def IsRandom (instruction : Instruction) : Prop :=
  ∃ x kk, instruction = .random x kk

theorem decode_random (w : Word) (family : w.toNat / 4096 = 0xC) :
    decode w = .random (Word.x w) (Word.kk w) :=
  decode_of_spells w _ (.random family)

theorem decode_random_iff (w : Word) : (decode w).IsRandom ↔ w.toNat / 4096 = 0xC := by
  constructor
  · rintro ⟨x, kk, random⟩
    cases (decode_eq_iff w _).mp random with
    | random family => exact family
  · intro family
    exact ⟨_, _, decode_random w family⟩

theorem decode_load_glyph (w : Word) (family : w.toNat / 4096 = 0xF) (low : w.toNat % 256 = 0x29) :
    decode w = .loadGlyph (Word.x w) :=
  decode_of_spells w _ (.loadGlyph family low)

theorem decode_draw (w : Word) (family : w.toNat / 4096 = 0xD) :
    decode w = .draw (Word.x w) (Word.y w) (Word.n w) :=
  decode_of_spells w _ (.draw family)

end Instruction

end Chip8
