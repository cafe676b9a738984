import Chip8.Proofs.Machine.Fault
import Chip8.Proofs.Machine.Store
import Chip8.Proofs.Memory.LastWrite

set_option autoImplicit false

namespace Chip8

namespace Machine

inductive Place where
  | mode
  | keypad
  | delay
  | sound
  | index
  | stack
  | random
  | screen
  | lastOpcode
  | cell (c : Memory.Cell)
  | register (r : Nibble)
deriving DecidableEq

def SameAt (a b : Machine) : Place → Prop
  | .mode => a.memory.mode = b.memory.mode
  | .keypad => a.keypad = b.keypad
  | .delay => a.delay = b.delay
  | .sound => a.sound = b.sound
  | .index => a.index = b.index
  | .stack => a.stack = b.stack
  | .random => a.random = b.random
  | .screen => a.screen = b.screen
  | .lastOpcode => a.lastOpcode = b.lastOpcode
  | .cell c => a.memory.cell c = b.memory.cell c
  | .register r => a.register r = b.register r

theorem same_at_refl (m : Machine) (place : Place) : SameAt m m place := by
  cases place <;> rfl

theorem same_at_trans (a b c : Machine) (place : Place) (first : SameAt a b place) (second : SameAt b c place) :
    SameAt a c place := by
  cases place <;> exact Eq.trans first second

end Machine

open Machine (Place SameAt flagRegister)

def Memory.Behind (index : UInt16) (count : Nat) (c : Cell) : Prop :=
  ¬ InGlyphs c.val ∧ ∃ j, j < count ∧ c.val = (index.toNat + j) % 4096

theorem Memory.written_behind (start : UInt16) (data : List UInt8) (c : Cell) (byte : UInt8)
    (hit : written start data c = some byte) : Behind start data.length c := by
  rw [written] at hit
  split at hit
  · cases hit
  · rename_i noGlyph
    obtain ⟨entry, found, _⟩ := Option.map_eq_some_iff.mp hit
    have lands := List.find?_some found
    have member := List.mem_reverse.mp (List.mem_of_find?_eq_some found)
    obtain ⟨_, below, _⟩ := List.mem_zipIdx member
    exact ⟨noGlyph, entry.2, by omega, (beq_iff_eq.mp lands).symm⟩

theorem Memory.write_same (m : Memory) (start : UInt16) (data : List UInt8) (c : Cell)
    (other : ¬ Behind start data.length c) : (m.write start data).1.cell c = m.cell c := by
  cases result : (m.write start data).2 with
  | error failure => rw [write_refused m start data failure result]
  | ok =>
      rw [write_done m start data c result]
      cases hit : written start data c with
      | none => rfl
      | some byte => exact absurd (written_behind start data c byte hit) other

def Instruction.Footprint (index : UInt16) (place : Place) : Instruction → Prop
  | .clearScreen => place = .screen
  | .ret | .call _ => place = .stack
  | .loadImm x _ | .addImm x _ | .move x _ | .or x _ | .and x _ | .xor x _ | .loadDelay x | .waitKey x =>
      place = .register x
  | .addReg x _ | .sub x _ | .shiftRight x | .subReverse x _ | .shiftLeft x =>
      place = .register x ∨ place = .register flagRegister
  | .loadIndex _ | .addIndex _ | .loadGlyph _ => place = .index
  | .random x _ => place = .register x ∨ place = .random
  | .draw _ _ _ => place = .screen ∨ place = .register flagRegister
  | .setDelay _ => place = .delay
  | .setSound _ => place = .sound
  | .storeBcd _ => ∃ c, place = .cell c ∧ Memory.Behind index 3 c
  | .storeRegs x => ∃ c, place = .cell c ∧ Memory.Behind index (x.val + 1) c
  | .loadRegs x => ∃ r, place = .register r ∧ r ≤ x
  | .jump _ | .jumpOffset _ | .skipEqImm _ _ | .skipNeImm _ _ | .skipEqReg _ _ | .skipNeReg _ _ | .skipKeyDown _
  | .skipKeyUp _ | .unknown _ => False

def Word.Alters (w : Word) (r : Nibble) : Prop :=
  (w.toNat / 4096 ∈ [6, 7, 0xC] ∨ w.toNat / 4096 = 8 ∧ w.toNat % 16 ∈ [0, 1, 2, 3] ∨
      w.toNat / 4096 = 0xF ∧ w.toNat % 256 ∈ [0x07, 0x0A]) ∧ r = Word.x w ∨
  (w.toNat / 4096 = 8 ∧ w.toNat % 16 ∈ [4, 5, 6, 7, 0xE]) ∧ (r = Word.x w ∨ r = flagRegister) ∨
  w.toNat / 4096 = 0xD ∧ r = flagRegister ∨
  (w.toNat / 4096 = 0xF ∧ w.toNat % 256 = 0x65) ∧ r ≤ Word.x w

def Word.Footprint (index : UInt16) (w : Word) : Place → Prop
  | .mode => False
  | .keypad => False
  | .delay => w.toNat / 4096 = 0xF ∧ w.toNat % 256 = 0x15
  | .sound => w.toNat / 4096 = 0xF ∧ w.toNat % 256 = 0x18
  | .index => w.toNat / 4096 = 0xA ∨ w.toNat / 4096 = 0xF ∧ w.toNat % 256 ∈ [0x1E, 0x29]
  | .stack => w.toNat / 4096 = 2 ∨ w = 0x00EE
  | .random => w.toNat / 4096 = 0xC
  | .screen => w = 0x00E0 ∨ w.toNat / 4096 = 0xD
  | .lastOpcode => True
  | .cell c => Memory.Behind index w.writes c
  | .register r => w.Alters r

theorem Instruction.spelled_footprint (index : UInt16) (w : Word) (instruction : Instruction)
    (spelled : Spells w instruction) (place : Place) (inside : instruction.Footprint index place) :
    w.Footprint index place := by
  have fits := spelled_fits w instruction spelled
  cases spelled with
  | clearScreen whole =>
      obtain rfl := inside
      exact .inl whole
  | ret whole =>
      obtain rfl := inside
      exact .inr whole
  | call family =>
      obtain rfl := inside
      exact .inl family
  | storeBcd family low | storeRegs family low =>
      obtain ⟨c, rfl, behind⟩ := inside
      rw [Word.Footprint, ← fits.writes]
      exact behind
  | loadRegs family low =>
      obtain ⟨r, rfl, below⟩ := inside
      simp [Word.Footprint, Word.Alters, family, low, below]
  | draw family =>
      rcases inside with rfl | rfl
      · exact .inr family
      · simp [Word.Footprint, Word.Alters, family]
  | random family =>
      rcases inside with rfl | rfl
      · simp [Word.Footprint, Word.Alters, family]
      · exact family
  | addReg family low | sub family low | shiftRight family low | subReverse family low | shiftLeft family low =>
      rcases inside with rfl | rfl <;> simp [Word.Footprint, Word.Alters, family, low]
  | loadImm family | addImm family | loadIndex family =>
      obtain rfl := inside
      simp [Word.Footprint, Word.Alters, family]
  | move family low | or family low | and family low | xor family low | loadDelay family low | waitKey family low
  | addIndex family low | loadGlyph family low | setDelay family low | setSound family low =>
      obtain rfl := inside
      simp [Word.Footprint, Word.Alters, family, low]
  | _ => exact absurd inside id

namespace Machine

theorem set_register_same (m : Machine) (x : Nibble) (value : UInt8) (place : Place) (other : place ≠ .register x) :
    SameAt m (m.setRegister x value) place := by
  cases place with
  | register r =>
      have different : x ≠ r := fun same => other (congrArg Place.register same.symm)
      exact (Bank.get_set_ne m.registers x r value different).symm
  | _ => rfl

theorem set_flag_same (m : Machine) (x : Nibble) (flag result : UInt8) (place : Place)
    (other : ¬ (place = .register x ∨ place = .register flagRegister)) :
    SameAt m (m.setFlagThen x flag result) place := by
  obtain ⟨notResult, notFlag⟩ := not_or.mp other
  exact same_at_trans m (m.setRegister flagRegister flag) _ place
    (set_register_same m flagRegister flag place notFlag) (set_register_same _ x result place notResult)

theorem set_registers_same (m : Machine) (x : Nibble) (bytes : List UInt8) (place : Place)
    (other : ¬ ∃ r, place = .register r ∧ r ≤ x) : SameAt m (m.setRegisters x bytes) place := by
  cases place with
  | register r =>
      have above : ¬ r.val ≤ x.val := fun below => other ⟨r, rfl, below⟩
      change m.register r = (Bank.ofFn _).get r
      rw [Bank.get_of_fn, if_neg above]
  | _ => rfl

theorem skip_same (m : Machine) (condition : Bool) (place : Place) : SameAt m (m.skipIf condition) place := by
  cases condition <;> cases place <;> rfl

theorem store_same (m : Machine) (bytes : List UInt8) (place : Place)
    (other : ¬ ∃ c, place = .cell c ∧ Memory.Behind m.index bytes.length c) : SameAt m (m.store bytes).1 place := by
  cases place with
  | cell c =>
      have missed : ¬ Memory.Behind m.index bytes.length c := fun behind => other ⟨c, rfl, behind⟩
      exact (Memory.write_same m.memory m.index bytes c missed).symm
  | mode => exact (Memory.write_mode m.memory m.index bytes).symm
  | _ => rfl

theorem execute_frame (m : Machine) (instruction : Instruction) (place : Place)
    (outside : ¬ instruction.Footprint m.index place) : SameAt m (execute m instruction).1 place := by
  cases instruction with
  | ret =>
      simp only [execute]
      cases m.stack with
      | nil => exact same_at_refl m place
      | cons newest older =>
          cases place with
          | stack => exact absurd rfl outside
          | _ => rfl
  | call nnn =>
      simp only [execute]
      split
      · cases place with
        | stack => exact absurd rfl outside
        | _ => rfl
      · exact same_at_refl m place
  | jump | jumpOffset | unknown => cases place <;> rfl
  | skipEqImm | skipNeImm | skipEqReg | skipNeReg | skipKeyDown | skipKeyUp => exact skip_same m _ place
  | clearScreen =>
      cases place with
      | screen => exact absurd rfl outside
      | _ => rfl
  | loadIndex | addIndex | loadGlyph =>
      cases place with
      | index => exact absurd rfl outside
      | _ => rfl
  | setDelay =>
      cases place with
      | delay => exact absurd rfl outside
      | _ => rfl
  | setSound =>
      cases place with
      | sound => exact absurd rfl outside
      | _ => rfl
  | loadImm x | addImm x | move x | or x | and x | xor x | loadDelay x => exact set_register_same m x _ place outside
  | addReg x | sub x | shiftRight x | subReverse x | shiftLeft x => exact set_flag_same m x _ _ place outside
  | random x kk =>
      obtain ⟨notRegister, notRandom⟩ := not_or.mp outside
      have kept := set_register_same m x (m.random.byte &&& kk) place notRegister
      cases place with
      | random => exact absurd rfl notRandom
      | _ => exact kept
  | waitKey x =>
      simp only [execute]
      cases m.keypad.first with
      | some key => exact set_register_same m x _ place outside
      | none => cases place <;> rfl
  | draw x y n =>
      obtain ⟨notScreen, notFlag⟩ := not_or.mp outside
      simp only [execute]
      cases m.memory.read m.index n.val with
      | error failure => exact same_at_refl m place
      | ok rows =>
          have kept := set_register_same m flagRegister
            (m.screen.draw (m.register x) (m.register y) rows).2.toUInt8 place notFlag
          cases place with
          | screen => exact absurd rfl notScreen
          | _ => exact kept
  | loadRegs x =>
      simp only [execute]
      cases m.memory.read m.index (x.val + 1) with
      | error failure => exact same_at_refl m place
      | ok bytes => exact set_registers_same m x bytes place outside
  | storeBcd x => exact store_same m (decimalDigits (m.register x)) place outside
  | storeRegs x =>
      apply store_same m _ place
      rw [length_stored]
      exact outside

theorem progress_same (m : Machine) (pc lastOpcode : UInt16) (place : Place) (other : place ≠ .lastOpcode) :
    SameAt m { m with pc := pc, lastOpcode := lastOpcode } place := by
  cases place with
  | lastOpcode => exact absurd rfl other
  | _ => rfl

-- A step that faults changes the last opcode only, so the word need not be executed.
theorem step_frame (m : Machine) (word : Word) (fetched : m.fetchedWord = some word) (place : Place)
    (outside : ¬ word.Footprint m.index place) : SameAt m m.step.machine place := by
  have opened := (fetched_word_iff m word).mp fetched
  have notOpcode : place ≠ .lastOpcode := by
    rintro rfl
    exact outside trivial
  have kept : SameAt m (execute (m.advance word) (Instruction.decode word)).1 place := by
    apply same_at_trans m (m.advance word) _ place (progress_same m (m.pc + 2) word place notOpcode)
    apply execute_frame
    exact mt (Instruction.spelled_footprint m.index word _ (Instruction.decode_spells word) place) outside
  cases result : (execute (m.advance word) (Instruction.decode word)).2 with
  | error source =>
      rw [step_refused m word source opened result]
      exact progress_same m m.pc word place notOpcode
  | ok =>
      rw [step_done m _ word opened (Prod.ext rfl result)]
      exact kept

theorem step_unfetched_same (m : Machine) (unfetched : m.fetchedWord = none) (place : Place) :
    SameAt m m.step.machine place := by
  cases opened : m.memory.fetch m.pc with
  | error source =>
      rw [step_unfetched m source opened]
      exact same_at_refl m place
  | ok word => cases unfetched.symm.trans ((fetched_word_iff m word).mpr opened)

end Machine

end Chip8
