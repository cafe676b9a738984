import Chip8.Proofs.Keypad.Latest
import Chip8.Proofs.Machine.CallStack

set_option autoImplicit false

namespace Chip8.Machine

-- What decides over a skip is looked up before the step.
def Skips (m : Machine) (word : Word) : Prop :=
  word.toNat / 4096 = 3 ∧ m.register (Word.x word) = Word.kk word ∨
  word.toNat / 4096 = 4 ∧ m.register (Word.x word) ≠ Word.kk word ∨
  word.toNat / 4096 = 5 ∧ m.register (Word.x word) = m.register (Word.y word) ∨
  word.toNat / 4096 = 9 ∧ m.register (Word.x word) ≠ m.register (Word.y word) ∨
  (word.toNat / 4096 = 0xE ∧ word.toNat % 256 = 0x9E) ∧ m.keypad.isPressed (m.register (Word.x word)) = true ∨
  (word.toNat / 4096 = 0xE ∧ word.toNat % 256 = 0xA1) ∧ m.keypad.isPressed (m.register (Word.x word)) = false

instance (m : Machine) (word : Word) : Decidable (m.Skips word) := inferInstanceAs (Decidable (_ ∨ _))

def nextPc (m : Machine) (word : Word) : Nat :=
  if word.toNat / 4096 ∈ [1, 2] then word.toNat % 4096
  else if word.toNat / 4096 = 0xB then (m.register (Nibble.low 0)).toNat + word.toNat % 4096
  else if word = 0x00EE then (m.stack.headD 0).toNat
  else if (word.toNat / 4096 = 0xF ∧ word.toNat % 256 = 0x0A) ∧ ∀ key, m.keypad.keys.get key = false then
    m.pc.toNat
  else if m.Skips word then (m.pc.toNat + 4) % 65536
  else (m.pc.toNat + 2) % 65536

theorem advance_pc_to_nat (m : Machine) (word : Word) : (m.advance word).pc.toNat = (m.pc.toNat + 2) % 65536 := by
  change (m.pc + 2).toNat = _
  rw [UInt16.toNat_add]
  rfl

theorem skip_pc_to_nat (m : Machine) (word : Word) (condition : Bool) :
    ((m.advance word).skipIf condition).pc.toNat =
      if condition = true then (m.pc.toNat + 4) % 65536 else (m.pc.toNat + 2) % 65536 := by
  cases condition with
  | false => exact advance_pc_to_nat m word
  | true =>
      change ((m.advance word).pc + 2).toNat = (m.pc.toNat + 4) % 65536
      rw [UInt16.toNat_add, advance_pc_to_nat]
      change ((m.pc.toNat + 2) % 65536 + 2) % 65536 = _
      omega

theorem nnn_to_nat (word : Word) : (UInt16.ofNat (Word.nnn word).val).toNat = word.toNat % 4096 := by
  have digits : (Word.nnn word).val = word.toNat % 4096 := rfl
  rw [UInt16.toNat_ofNat', digits]
  omega

theorem offset_to_nat (word : Word) (byte : UInt8) :
    (UInt16.ofNat (byte.toNat + (Word.nnn word).val)).toNat = byte.toNat + word.toNat % 4096 := by
  have digits : (Word.nnn word).val = word.toNat % 4096 := rfl
  have bound : byte.toNat < 256 := byte.toNat_lt
  rw [UInt16.toNat_ofNat', digits]
  omega

theorem next_pc_skip (m : Machine) (word : Word) (family : word.toNat / 4096 ∉ [0, 1, 2, 0xB, 0xF]) :
    m.nextPc word = if m.Skips word then (m.pc.toNat + 4) % 65536 else (m.pc.toNat + 2) % 65536 := by
  simp only [List.mem_cons, List.not_mem_nil, or_false, not_or] at family
  have noReturn := Instruction.ne_return word family.1
  simp [nextPc, family, noReturn]

theorem next_pc_plain (m : Machine) (word : Word) (family : word.toNat / 4096 ∈ [6, 7, 8, 0xA, 0xC, 0xD]) :
    m.nextPc word = (m.pc.toNat + 2) % 65536 := by
  simp only [List.mem_cons, List.not_mem_nil, or_false] at family
  rw [next_pc_skip m word (by simp; omega), if_neg]
  rw [Skips]
  omega

theorem next_pc_misc (m : Machine) (word : Word) (family : word.toNat / 4096 = 0xF)
    (low : word.toNat % 256 ≠ 0x0A) : m.nextPc word = (m.pc.toNat + 2) % 65536 := by
  have noReturn := Instruction.ne_return word (by simp [family])
  simp [nextPc, Skips, family, low, noReturn]

theorem next_pc_system (m : Machine) (word : Word) (family : word.toNat / 4096 = 0) (notReturn : word ≠ 0x00EE) :
    m.nextPc word = (m.pc.toNat + 2) % 65536 := by
  simp [nextPc, Skips, family, notReturn]

theorem skip_lands (m : Machine) (word : Word) (condition : Bool)
    (family : word.toNat / 4096 ∉ [0, 1, 2, 0xB, 0xF]) (decides : condition = true ↔ m.Skips word) :
    ((m.advance word).skipIf condition).pc.toNat = m.nextPc word := by
  rw [skip_pc_to_nat, next_pc_skip m word family]
  simp only [decides]

theorem store_pc (m after : Machine) (bytes : List UInt8) (stored : m.store bytes = (after, .ok ())) :
    after.pc = m.pc := by
  have left : (m.store bytes).1 = after := congrArg Prod.fst stored
  rw [← left]
  rfl

theorem draw_pc (m after : Machine) (x y n : Nibble) (drawn : execute m (.draw x y n) = (after, .ok ())) :
    after.pc = m.pc := by
  simp only [execute] at drawn
  split at drawn
  · cases drawn
  · cases drawn
    rfl

theorem load_registers_pc (m after : Machine) (x : Nibble) (loaded : execute m (.loadRegs x) = (after, .ok ())) :
    after.pc = m.pc := by
  simp only [execute] at loaded
  split at loaded
  · cases loaded
  · cases loaded
    rfl

theorem wait_pc (m after : Machine) (word : Word) (family : word.toNat / 4096 = 0xF) (low : word.toNat % 256 = 0x0A)
    (waited : execute (m.advance word) (.waitKey (Word.x word)) = (after, .ok ())) :
    after.pc.toNat = m.nextPc word := by
  have noReturn := Instruction.ne_return word (by simp [family])
  have noSkip : ¬ m.Skips word := by simp [Skips, family]
  have decides : m.nextPc word = if m.keypad.first = none then m.pc.toNat else (m.pc.toNat + 2) % 65536 := by
    simp [nextPc, family, low, noReturn, noSkip, Keypad.first_none_iff]
  have same : (m.advance word).keypad = m.keypad := rfl
  rw [decides]
  simp only [execute, same] at waited
  cases first : m.keypad.first with
  | some key =>
      rw [first] at waited
      cases waited
      rw [if_neg (by simp)]
      exact advance_pc_to_nat m word
  | none =>
      rw [first] at waited
      cases waited
      rw [if_pos rfl]
      change (m.pc + 2 - 2).toNat = m.pc.toNat
      rw [UInt16.add_sub_cancel]

theorem spelled_pc (m after : Machine) (word : Word) (instruction : Instruction)
    (spelled : Instruction.Spells word instruction)
    (executed : execute (m.advance word) instruction = (after, .ok ())) : after.pc.toNat = m.nextPc word := by
  have onward := advance_pc_to_nat m word
  cases spelled with
  | ret whole =>
      have popped : m.stack = after.pc :: after.stack := execute_return (m.advance word) after executed
      subst whole
      simp [nextPc, popped]
  | jump family =>
      cases executed
      rw [nextPc, if_pos (by simp [family])]
      exact nnn_to_nat word
  | call family =>
      simp only [execute] at executed
      split at executed
      · cases executed
        rw [nextPc, if_pos (by simp [family])]
        exact nnn_to_nat word
      · cases executed
  | jumpOffset family =>
      cases executed
      rw [nextPc, if_neg (by simp [family]), if_pos family]
      exact offset_to_nat word _
  | waitKey family low => exact wait_pc m after word family low executed
  | skipEqImm family | skipNeImm family | skipEqReg family | skipNeReg family =>
      cases executed
      exact skip_lands m word _ (by simp [family]) (by simp [Skips, family, register, advance])
  | skipKeyDown family low | skipKeyUp family low =>
      cases executed
      exact skip_lands m word _ (by simp [family]) (by simp [Skips, family, low, register, advance])
  | clearScreen whole =>
      cases executed
      subst whole
      exact onward.trans (next_pc_system m 0x00E0 rfl (by decide)).symm
  | unknownSystem family notClear notReturn =>
      cases executed
      exact onward.trans (next_pc_system m word family notReturn).symm
  | unknownKey family low =>
      cases executed
      simp only [List.mem_cons, List.not_mem_nil, or_false, not_or] at low
      have still : ¬ m.Skips word := by simp [Skips, family, low]
      rw [next_pc_skip m word (by simp [family]), if_neg still]
      exact onward
  | unknownMisc family low =>
      simp only [List.mem_cons, List.not_mem_nil, or_false, not_or] at low
      cases executed
      exact onward.trans (next_pc_misc m word family low.2.1).symm
  | loadDelay family low | setDelay family low | setSound family low | addIndex family low | loadGlyph family low =>
      cases executed
      exact onward.trans (next_pc_misc m word family (by simp [low])).symm
  | storeBcd family low | storeRegs family low =>
      rw [store_pc (m.advance word) after _ executed, onward, next_pc_misc m word family (by simp [low])]
  | loadRegs family low =>
      rw [load_registers_pc (m.advance word) after _ executed, onward, next_pc_misc m word family (by simp [low])]
  | draw family => rw [draw_pc (m.advance word) after _ _ _ executed, onward, next_pc_plain m word (by simp [family])]
  | _ family =>
      cases executed
      exact onward.trans (next_pc_plain m word (by simp [family])).symm

theorem executes_done (m : Machine) (word : Word) (executed : m.Executes word) :
    execute (m.advance word) (Instruction.decode word) = (m.step.machine, .ok ()) := by
  obtain ⟨fetched, done⟩ := executed
  have opened := (fetched_word_iff m word).mp fetched
  cases effect : execute (m.advance word) (Instruction.decode word) with
  | mk left result =>
      cases result with
      | error source =>
          rw [step_refused m word source opened (by rw [effect])] at done
          cases done
      | ok => rw [step_done m left word opened effect]

theorem executes_spelled (m : Machine) (word : Word) (instruction : Instruction) (executed : m.Executes word)
    (spelled : Instruction.Spells word instruction) :
    execute (m.advance word) instruction = (m.step.machine, .ok ()) := by
  rw [← Instruction.decode_of_spells word instruction spelled]
  exact executes_done m word executed

theorem step_of_spells (m after : Machine) (word : Word) (instruction : Instruction)
    (fetched : m.fetchedWord = some word) (spelled : Instruction.Spells word instruction)
    (executed : execute (m.advance word) instruction = (after, .ok ())) :
    m.step.result = .ok () ∧ m.step.machine = after := by
  rw [← Instruction.decode_of_spells word instruction spelled] at executed
  rw [step_done m after word ((fetched_word_iff m word).mp fetched) executed]
  exact ⟨rfl, rfl⟩

def bytesBehind (m : Machine) (count : Nat) : List UInt8 :=
  (List.range count).map fun j => m.memory.cell (Memory.Cell.low (m.index.toNat + j))

theorem step_pc (m : Machine) (word : Word) (executed : m.Executes word) :
    m.step.machine.pc.toNat = m.nextPc word :=
  spelled_pc m m.step.machine word _ (Instruction.decode_spells word) (executes_done m word executed)

theorem executes_last_opcode (m : Machine) (word : Word) (executed : m.Executes word) :
    m.step.machine.lastOpcode = word := by
  have outside : ¬ (Instruction.decode word).Footprint (m.advance word).index .lastOpcode := by
    cases Instruction.decode word <;> simp [Instruction.Footprint]
  have kept : SameAt _ _ .lastOpcode := execute_frame (m.advance word) _ _ outside
  rw [executes_done m word executed] at kept
  exact kept.symm

theorem step_keeps_to_footprint (m : Machine) (word : Word) :
    (m.Executes word →
      (∀ place, ¬ word.Footprint m.index place → SameAt m m.step.machine place) ∧
      m.step.machine.lastOpcode = word ∧
      m.step.machine.pc.toNat = m.nextPc word ∧
      (word = 0x00EE → m.stack = m.step.machine.pc :: m.step.machine.stack)) ∧
    (∀ unlisted, m.fetchedWord = some word → Instruction.decode word = .unknown unlisted →
      m.step.result = .ok () ∧ m.step.machine = { m with pc := m.pc + 2, lastOpcode := word }) := by
  refine ⟨?_, ?_⟩
  · intro executed
    refine ⟨step_frame m word executed.1, ?_, ?_, ?_⟩
    · exact executes_last_opcode m word executed
    · exact step_pc m word executed
    · intro returns
      subst returns
      exact execute_return (m.advance 0x00EE) _ (executes_done m 0x00EE executed)
  · intro unlisted fetched unknown
    have executed : execute (m.advance word) (Instruction.decode word) = (m.advance word, .ok ()) := by
      rw [unknown]
      rfl
    rw [step_done m _ word ((fetched_word_iff m word).mp fetched) executed]
    exact ⟨rfl, rfl⟩

def digitsAcross : Machine :=
  { fresh .lenient (.ofSeed 0) with
    memory := ((Memory.fresh .lenient).load [0x22, 0x04, 0x80, 0x0F, 0xF3, 0x33, 0x00, 0xEE]).1
    registers := (Bank.fill 0).set (Nibble.low 3) 0xFE
    index := 0x109E }

theorem digits_keep_to_footprint :
    (digitsAcross.after [.step]).Executes 0xF333 ∧
      (digitsAcross.after [.step, .step]).memory.cell 0x9F = (digitsAcross.after [.step]).memory.cell 0x9F ∧
      (digitsAcross.after [.step, .step]).memory.cell 0xA0 = 4 ∧
      (digitsAcross.after [.step, .step]).Executes 0x00EE ∧
      (digitsAcross.after [.step, .step]).stack = [0x202] ∧
      (digitsAcross.after [.step, .step, .step]).pc = 0x202 ∧
      (digitsAcross.after [.step, .step, .step]).step.result = .ok () := by
  have stores : (digitsAcross.after [.step]).Executes 0xF333 := ⟨rfl, rfl⟩
  have returns : (digitsAcross.after [.step, .step]).Executes 0x00EE := ⟨rfl, rfl⟩
  obtain ⟨storing, _⟩ := step_keeps_to_footprint (digitsAcross.after [.step]) 0xF333
  obtain ⟨returning, _⟩ := step_keeps_to_footprint (digitsAcross.after [.step, .step]) 0x00EE
  obtain ⟨_, unlisted⟩ := step_keeps_to_footprint (digitsAcross.after [.step, .step, .step]) 0x800F
  have glyph : ¬ Word.Footprint 0x109E 0xF333 (.cell 0x9F) := fun behind => behind.1 (by decide)
  obtain ⟨kept, _⟩ := storing stores
  obtain ⟨_, _, _, resumed⟩ := returning returns
  have stack : (digitsAcross.after [.step, .step]).stack = [0x202] := rfl
  rw [stack] at resumed
  obtain ⟨top, _⟩ := List.cons.inj (resumed rfl)
  exact ⟨stores, (kept (.cell 0x9F) glyph).symm, rfl, returns, stack, top.symm, (unlisted 0x800F rfl rfl).1⟩

end Chip8.Machine
