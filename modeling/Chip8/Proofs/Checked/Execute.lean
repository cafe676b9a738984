import Chip8.Machine.Execute
import Chip8.Proofs.Checked.Memory
import Chip8.Proofs.Checked.Operand
import Chip8.Proofs.Checked.Screen
import Chip8.Proofs.Machine.CallStack

set_option autoImplicit false

namespace Chip8

structure ArrayMachine where
  memory : ArrayMemory
  screen : PixelArray
  keys : List Bool
  registers : List UInt8
  index : UInt16
  pc : UInt16
  stack : List UInt16
  stackPointer : Nat
  delay : UInt8
  sound : UInt8
  lastOpcode : UInt16
  random : RandomStream

namespace ArrayMachine

abbrev Effect := ArrayMachine × Except Failure Unit

def done (m : ArrayMachine) : Checked Effect :=
  return (m, .ok ())

def register (m : ArrayMachine) (x : UInt8) : Checked UInt8 :=
  Checked.get m.registers x.toNat

def setRegister (m : ArrayMachine) (x value : UInt8) : Checked ArrayMachine := do
  let registers ← Checked.set m.registers x.toNat value
  return { m with registers := registers }

def setFlagThen (m : ArrayMachine) (x flag result : UInt8) : Checked ArrayMachine := do
  let flagged ← m.setRegister 0xF flag
  flagged.setRegister x result

def skipIf (m : ArrayMachine) (condition : Bool) : ArrayMachine :=
  if condition then { m with pc := m.pc + 2 } else m

def isPressed (m : ArrayMachine) (key : UInt8) : Checked Bool :=
  Checked.get m.keys (key &&& 0x0F).toNat

def firstPressed (m : ArrayMachine) : Option UInt8 :=
  (m.keys.findIdx? id).map UInt8.ofNat

def store (m : ArrayMachine) (bytes : List UInt8) : Checked Effect := do
  let (memory, written) ← m.memory.writeBytes m.index bytes
  return ({ m with memory := memory }, written)

-- The decoded instruction says what to do; what it is done to is read off the word.
def execute (m : ArrayMachine) (word : Word) (instruction : Instruction) : Checked Effect := do
  let x := Operand.x word
  let y := Operand.y word
  let kk := Operand.kk word
  let nnn := Operand.nnn word
  match instruction with
  | .clearScreen => done { m with screen := m.screen.clear }
  | .ret =>
      if m.stackPointer = 0 then return (m, .error .stackUnderflow)
      let top ← Checked.sub m.stackPointer 1
      let pc ← Checked.get m.stack top
      done { m with stackPointer := top, pc := pc }
  | .jump _ => done { m with pc := nnn }
  | .call _ =>
      if m.stackPointer = 16 then return (m, .error .stackOverflow)
      let stack ← Checked.set m.stack m.stackPointer m.pc
      done { m with stack := stack, stackPointer := m.stackPointer + 1, pc := nnn }
  | .skipEqImm _ _ =>
      let vx ← m.register x
      done (m.skipIf (vx == kk))
  | .skipNeImm _ _ =>
      let vx ← m.register x
      done (m.skipIf (vx != kk))
  | .skipEqReg _ _ =>
      let vx ← m.register x
      let vy ← m.register y
      done (m.skipIf (vx == vy))
  | .skipNeReg _ _ =>
      let vx ← m.register x
      let vy ← m.register y
      done (m.skipIf (vx != vy))
  | .loadImm _ _ =>
      let next ← m.setRegister x kk
      done next
  | .addImm _ _ =>
      let vx ← m.register x
      let next ← m.setRegister x (vx + kk)
      done next
  | .move _ _ =>
      let vy ← m.register y
      let next ← m.setRegister x vy
      done next
  | .or _ _ =>
      let vx ← m.register x
      let vy ← m.register y
      let next ← m.setRegister x (vx ||| vy)
      done next
  | .and _ _ =>
      let vx ← m.register x
      let vy ← m.register y
      let next ← m.setRegister x (vx &&& vy)
      done next
  | .xor _ _ =>
      let vx ← m.register x
      let vy ← m.register y
      let next ← m.setRegister x (vx ^^^ vy)
      done next
  | .addReg _ _ =>
      let vx ← m.register x
      let vy ← m.register y
      let next ← m.setFlagThen x (decide (256 ≤ vx.toNat + vy.toNat)).toUInt8 (vx + vy)
      done next
  | .sub _ _ =>
      let vx ← m.register x
      let vy ← m.register y
      let next ← m.setFlagThen x (decide (vy < vx)).toUInt8 (vx - vy)
      done next
  | .shiftRight _ =>
      let vx ← m.register x
      let next ← m.setFlagThen x (vx % 2) (vx / 2)
      done next
  | .subReverse _ _ =>
      let vx ← m.register x
      let vy ← m.register y
      let next ← m.setFlagThen x (decide (vx < vy)).toUInt8 (vy - vx)
      done next
  | .shiftLeft _ =>
      let vx ← m.register x
      let next ← m.setFlagThen x (vx / 128) (vx + vx)
      done next
  | .loadIndex _ => done { m with index := nnn }
  | .jumpOffset _ =>
      let v0 ← m.register 0
      let pc ← Checked.add16 v0.toUInt16 nnn
      done { m with pc := pc }
  | .random _ _ =>
      let next ← m.setRegister x (m.random.byte &&& kk)
      done { next with random := m.random.next }
  | .draw _ _ _ =>
      match ← m.memory.readBytes m.index (Operand.n word).toNat with
      | .error failure => return (m, .error failure)
      | .ok rows =>
          let vx ← m.register x
          let vy ← m.register y
          let drawn ← m.screen.draw vx vy rows
          let next ← m.setRegister 0xF drawn.2.toUInt8
          done { next with screen := drawn.1 }
  | .skipKeyDown _ =>
      let vx ← m.register x
      let pressed ← m.isPressed vx
      done (m.skipIf pressed)
  | .skipKeyUp _ =>
      let vx ← m.register x
      let pressed ← m.isPressed vx
      done (m.skipIf (!pressed))
  | .loadDelay _ =>
      let next ← m.setRegister x m.delay
      done next
  | .waitKey _ =>
      match m.firstPressed with
      | some key =>
          let next ← m.setRegister x key
          done next
      | none => done { m with pc := m.pc - 2 }
  | .setDelay _ =>
      let vx ← m.register x
      done { m with delay := vx }
  | .setSound _ =>
      let vx ← m.register x
      done { m with sound := vx }
  | .addIndex _ =>
      let vx ← m.register x
      done { m with index := m.index + vx.toUInt16 }
  | .loadGlyph _ =>
      let vx ← m.register x
      let index ← ArrayMemory.glyphAddress vx
      done { m with index := index }
  | .storeBcd _ =>
      let vx ← m.register x
      m.store (Machine.decimalDigits vx)
  | .storeRegs _ =>
      let bytes ← Checked.slice m.registers 0 (x.toNat + 1)
      m.store bytes
  | .loadRegs _ =>
      match ← m.memory.readBytes m.index (x.toNat + 1) with
      | .error failure => return (m, .error failure)
      | .ok bytes =>
          let registers ← Checked.copy m.registers 0 (x.toNat + 1) bytes
          done { m with registers := registers }
  | .unknown _ => done m

end ArrayMachine

namespace Machine

-- The machine on arrays, with what its sixteen stack slots hold.
def array (m : Machine) (slots : List UInt16) : ArrayMachine where
  memory := m.memory.array
  screen := m.screen.array
  keys := List.ofFn m.keypad.keys.get
  registers := List.ofFn m.registers.get
  index := m.index
  pc := m.pc
  stack := slots
  stackPointer := m.stack.length
  delay := m.delay
  sound := m.sound
  lastOpcode := m.lastOpcode
  random := m.random

-- The slots below the stack pointer are the stack, oldest first.
structure Stacked (stack slots : List UInt16) : Prop where
  number : slots.length = 16
  depth : stack.length ≤ 16
  below : slots.take stack.length = stack.reverse

theorem find_idx_range (p : Nat → Bool) (n : Nat) : (List.range n).findIdx? p = (List.range n).find? p := by
  induction n with
  | zero => rfl
  | succ n ih =>
      rw [List.range_succ, List.findIdx?_append, List.find?_append, ih, List.length_range]
      cases found : p n <;> simp [found]

theorem of_fn_nibbles {α : Type} (f : Nibble → α) : List.ofFn f = (List.range 16).map fun k => f (Nibble.low k) := by
  symm
  apply eq_of_fn
  · rw [List.length_map, List.length_range]
  · intro x
    rw [List.getElem?_map, List.getElem?_range x.isLt, Option.map_some, Nibble.low_val]

theorem find_idx_nibbles (f : Nibble → Bool) : (List.ofFn f).findIdx? id = (Nibble.all.find? f).map Fin.val := by
  rw [of_fn_nibbles, List.findIdx?_map, Function.id_comp, find_idx_range, Nibble.all, List.find?_map, Option.map_map]
  cases found : (List.range 16).find? (f ∘ Nibble.low) with
  | none => exact found
  | some k =>
      have inside : k < 16 := List.mem_range.mp (List.mem_of_find?_eq_some found)
      have same : (Nibble.low k).val = k := Nat.mod_eq_of_lt inside
      refine found.trans ?_
      rw [Option.map_some, Function.comp_apply, same]

section Registers

variable (m : Machine) (slots : List UInt16) (word : Word)

theorem register_checked (x : UInt8) (place : Nibble) (same : x.toNat = place.val) :
    (m.array slots).register x = .ok (m.register place) := by
  rw [ArrayMachine.register, same]
  exact get_of_fn m.registers.get place

theorem set_register_checked (x value : UInt8) (place : Nibble) (same : x.toNat = place.val) :
    (m.array slots).setRegister x value = .ok ((m.setRegister place value).array slots) := by
  have stored : Checked.set (List.ofFn m.registers.get) place.val value =
      .ok (List.ofFn (m.registers.set place value).get) :=
    set_of_fn m.registers.get _ place value fun y => Bank.get_set m.registers place y value
  rw [ArrayMachine.setRegister, same]
  exact congrArg (· >>= _) stored

theorem register_x : (m.array slots).register (Operand.x word) = .ok (m.register (Word.x word)) :=
  register_checked m slots _ _ (Operand.x_to_nat word)

theorem register_y : (m.array slots).register (Operand.y word) = .ok (m.register (Word.y word)) :=
  register_checked m slots _ _ (Operand.y_to_nat word)

theorem register_zero : (m.array slots).register 0 = .ok (m.register (Nibble.low 0)) :=
  register_checked m slots 0 (Nibble.low 0) rfl

theorem set_register_x (value : UInt8) :
    (m.array slots).setRegister (Operand.x word) value = .ok ((m.setRegister (Word.x word) value).array slots) :=
  set_register_checked m slots _ value _ (Operand.x_to_nat word)

theorem set_flag (value : UInt8) :
    (m.array slots).setRegister 0xF value = .ok ((m.setRegister flagRegister value).array slots) :=
  set_register_checked m slots 0xF value flagRegister rfl

theorem set_flag_then_x (flag result : UInt8) :
    (m.array slots).setFlagThen (Operand.x word) flag result =
      .ok ((m.setFlagThen (Word.x word) flag result).array slots) := by
  rw [ArrayMachine.setFlagThen, set_flag, Checked.ok_bind, set_register_x]
  rfl

theorem skip_if_array (condition : Bool) : (m.array slots).skipIf condition = (m.skipIf condition).array slots := by
  cases condition <;> rfl

theorem is_pressed_checked (key : UInt8) : (m.array slots).isPressed key = .ok (m.keypad.isPressed key) := by
  have nibble : (key &&& 0x0F).toNat = (Nibble.low key.toNat).val := Checked.masked_low_nibble key
  rw [ArrayMachine.isPressed, nibble]
  exact get_of_fn m.keypad.keys.get (Nibble.low key.toNat)

theorem first_pressed_array :
    (m.array slots).firstPressed = m.keypad.first.map fun key => UInt8.ofNat key.val := by
  have found := find_idx_nibbles m.keypad.keys.get
  rw [ArrayMachine.firstPressed, Keypad.first]
  exact (congrArg (Option.map UInt8.ofNat) found).trans (Option.map_map _ _ _)

theorem store_checked (bytes : List UInt8) :
    (m.array slots).store bytes = .ok ((m.store bytes).1.array slots, (m.store bytes).2) := by
  have written := Memory.write_bytes_checked m.memory m.index bytes
  exact congrArg (· >>= _) written

end Registers

def Agrees (m : Machine) (slots : List UInt16) (word : Word) (instruction : Instruction) : Prop :=
  (m.array slots).execute word instruction =
    .ok ((execute m instruction).1.array slots, (execute m instruction).2)

theorem draw_agrees (m : Machine) (slots : List UInt16) (word : Word) :
    m.Agrees slots word (.draw (Word.x word) (Word.y word) (Word.n word)) := by
  have rows := Memory.read_bytes_checked m.memory m.index (Word.n word).val
  have memory : (m.array slots).memory = m.memory.array := rfl
  have index : (m.array slots).index = m.index := rfl
  have screen : (m.array slots).screen = m.screen.array := rfl
  simp only [Agrees, ArrayMachine.execute, memory, index, Operand.n_to_nat, rows, Checked.ok_bind, execute]
  cases m.memory.read m.index (Word.n word).val with
  | error failure => rfl
  | ok bytes =>
      simp only [register_x, register_y, Checked.ok_bind, screen, Screen.draw_checked, Screen.arrayed, set_flag,
        ArrayMachine.done, Checked.pure_eq, done]
      rfl

theorem length_read (m : Memory) (start : UInt16) (count : Nat) (bytes : List UInt8)
    (read : m.read start count = .ok bytes) : bytes.length = count := by
  have each := congrArg List.length ((map_m_ok_iff m.readByte _ bytes).mp read)
  rw [List.length_map, List.length_map, Memory.length_addresses] at each
  exact each.symm

theorem registers_copied (m : Machine) (x : Nibble) (bytes : List UInt8) (length : bytes.length = x.val + 1) :
    Checked.copy (List.ofFn m.registers.get) 0 (x.val + 1) bytes =
      .ok (List.ofFn (m.setRegisters x bytes).registers.get) := by
  have bound : x.val < 16 := x.isLt
  have fits : 0 + bytes.length = x.val + 1 := by omega
  have inside : x.val + 1 ≤ (List.ofFn m.registers.get).length := by
    rw [List.length_ofFn]
    omega
  refine (Checked.copy_ok _ 0 _ bytes fits inside).trans (congrArg Except.ok ?_)
  apply eq_of_fn
  · rw [length_spliced _ bytes 0 _ fits inside, List.length_ofFn]
  · intro y
    rw [spliced_get _ bytes 0 _ y.val fits inside, of_fn_at, setRegisters, Bank.get_of_fn]
    by_cases covered : y.val ≤ x.val
    · have place : y.val < bytes.length := by omega
      have within : 0 ≤ y.val ∧ y.val < x.val + 1 := ⟨Nat.zero_le _, by omega⟩
      rw [if_pos within, if_pos covered, Nat.sub_zero, List.getD_eq_getElem?_getD, List.getElem?_eq_getElem place]
      rfl
    · have apart : ¬ (0 ≤ y.val ∧ y.val < x.val + 1) := by omega
      rw [if_neg apart, if_neg covered]
      rfl

theorem load_registers_agrees (m : Machine) (slots : List UInt16) (word : Word) :
    m.Agrees slots word (.loadRegs (Word.x word)) := by
  have rows := Memory.read_bytes_checked m.memory m.index ((Word.x word).val + 1)
  have memory : (m.array slots).memory = m.memory.array := rfl
  have index : (m.array slots).index = m.index := rfl
  have registers : (m.array slots).registers = List.ofFn m.registers.get := rfl
  simp only [Agrees, ArrayMachine.execute, memory, index, Operand.x_to_nat, rows, Checked.ok_bind, execute]
  cases read : m.memory.read m.index ((Word.x word).val + 1) with
  | error failure => rfl
  | ok bytes =>
      have copied := registers_copied m (Word.x word) bytes (length_read m.memory m.index _ bytes read)
      simp only [registers, copied, Checked.ok_bind, ArrayMachine.done, Checked.pure_eq, done]
      rfl

theorem store_registers_agrees (m : Machine) (slots : List UInt16) (word : Word) :
    m.Agrees slots word (.storeRegs (Word.x word)) := by
  have bound : (Word.x word).val < 16 := (Word.x word).isLt
  have inside : (Word.x word).val + 1 ≤ (List.ofFn m.registers.get).length := by
    rw [List.length_ofFn]
    omega
  have listed : List.ofFn m.registers.get = m.registers.toList := by
    rw [of_fn_nibbles, Bank.toList, Nibble.all, List.map_map]
    rfl
  have taken : Checked.slice (List.ofFn m.registers.get) 0 ((Word.x word).val + 1) =
      .ok (m.registers.toList.take ((Word.x word).val + 1)) := by
    rw [Checked.slice_ok _ 0 _ (Nat.zero_le _) inside, List.drop_zero, listed]
  have registers : (m.array slots).registers = List.ofFn m.registers.get := rfl
  simp only [Agrees, ArrayMachine.execute, registers, Operand.x_to_nat, taken, Checked.ok_bind, store_checked, execute]

theorem jump_offset_agrees (m : Machine) (slots : List UInt16) (word : Word) :
    m.Agrees slots word (.jumpOffset (Word.nnn word)) := by
  have small : (m.register (Nibble.low 0)).toNat < 256 := UInt8.toNat_lt _
  have narrow : (Word.nnn word).val < 4096 := (Word.nnn word).isLt
  have fits : (m.register (Nibble.low 0)).toUInt16.toNat + (Operand.nnn word).toNat < 65536 := by
    rw [UInt8.toNat_toUInt16, Operand.nnn_to_nat]
    omega
  have sum : (m.register (Nibble.low 0)).toUInt16 + Operand.nnn word =
      UInt16.ofNat ((m.register (Nibble.low 0)).toNat + (Word.nnn word).val) := by
    apply UInt16.toNat_inj.mp
    rw [UInt16.toNat_add, UInt8.toNat_toUInt16, Operand.nnn_to_nat, UInt16.toNat_ofNat']
  simp only [Agrees, ArrayMachine.execute, register_zero, Checked.ok_bind, Checked.add16_ok _ _ fits, sum]
  rfl

theorem wait_key_agrees (m : Machine) (slots : List UInt16) (word : Word) :
    m.Agrees slots word (.waitKey (Word.x word)) := by
  simp only [Agrees, ArrayMachine.execute, first_pressed_array, execute]
  cases m.keypad.first with
  | none => rfl
  | some key =>
      simp only [Option.map_some, set_register_x, Checked.ok_bind]
      rfl

theorem add_index_agrees (m : Machine) (slots : List UInt16) (word : Word) :
    m.Agrees slots word (.addIndex (Word.x word)) := by
  have wide : (m.register (Word.x word)).toUInt16 = UInt16.ofNat (m.register (Word.x word)).toNat := by
    rw [← UInt8.toNat_toUInt16, UInt16.ofNat_toNat]
  simp only [Agrees, ArrayMachine.execute, register_x, Checked.ok_bind, wide]
  rfl

theorem load_glyph_agrees (m : Machine) (slots : List UInt16) (word : Word) :
    m.Agrees slots word (.loadGlyph (Word.x word)) := by
  simp only [Agrees, ArrayMachine.execute, register_x, Checked.ok_bind, Memory.glyph_address_checked]
  rfl

theorem clear_screen_agrees (m : Machine) (slots : List UInt16) (word : Word) : m.Agrees slots word .clearScreen := by
  have cleared := Screen.clear_checked m.screen
  have screen : (m.array slots).screen = m.screen.array := rfl
  simp only [Agrees, ArrayMachine.execute, screen, cleared]
  rfl

-- A call and a return are the only instructions that touch the stack; all others leave its slots alone.
theorem plain_agrees (m : Machine) (slots : List UInt16) (word : Word) (instruction : Instruction)
    (spelled : Instruction.Spells word instruction) (noCall : ¬ instruction.IsCall) (noReturn : instruction ≠ .ret) :
    m.Agrees slots word instruction := by
  cases spelled with
  | ret => exact absurd rfl noReturn
  | call => exact absurd ⟨_, rfl⟩ noCall
  | clearScreen => exact clear_screen_agrees m slots word
  | jumpOffset => exact jump_offset_agrees m slots word
  | draw => exact draw_agrees m slots word
  | waitKey => exact wait_key_agrees m slots word
  | addIndex => exact add_index_agrees m slots word
  | loadGlyph => exact load_glyph_agrees m slots word
  | storeRegs => exact store_registers_agrees m slots word
  | loadRegs => exact load_registers_agrees m slots word
  | storeBcd => simp only [Agrees, ArrayMachine.execute, register_x, Checked.ok_bind, store_checked, execute]
  | skipEqImm | skipNeImm | skipEqReg | skipNeReg | skipKeyDown | skipKeyUp =>
      simp only [Agrees, ArrayMachine.execute, register_x, register_y, is_pressed_checked, Operand.kk_eq,
        Checked.ok_bind, skip_if_array]
      rfl
  | loadImm | addImm | move | or | and | xor | loadDelay =>
      simp only [Agrees, ArrayMachine.execute, register_x, register_y, set_register_x, Operand.kk_eq, Checked.ok_bind]
      rfl
  | addReg | sub | shiftRight | subReverse | shiftLeft =>
      simp only [Agrees, ArrayMachine.execute, register_x, register_y, set_flag_then_x, Checked.ok_bind]
      rfl
  | random =>
      have random : (m.array slots).random = m.random := rfl
      simp only [Agrees, ArrayMachine.execute, random, set_register_x, Operand.kk_eq, Checked.ok_bind]
      rfl
  | jump | loadIndex =>
      simp only [Agrees, ArrayMachine.execute, Operand.nnn_eq]
      rfl
  | setDelay | setSound =>
      simp only [Agrees, ArrayMachine.execute, register_x, Checked.ok_bind]
      rfl
  | unknownSystem | unknownArithmetic | unknownKey | unknownMisc => rfl

theorem stacked_top (newest : UInt16) (older slots : List UInt16) (stacked : Stacked (newest :: older) slots) :
    Checked.get slots older.length = .ok newest ∧ Stacked older slots := by
  have room : older.length + 1 ≤ 16 := stacked.depth
  have below : slots.take (older.length + 1) = older.reverse ++ [newest] := by
    rw [← List.reverse_cons]
    exact stacked.below
  constructor
  · have top : slots[older.length]? = some newest := by
      rw [← List.getElem?_take_of_lt (Nat.lt_succ_self older.length), below,
        List.getElem?_append_right (by rw [List.length_reverse]), List.length_reverse, Nat.sub_self]
      rfl
    rw [Checked.get, top]
  · refine ⟨stacked.number, by omega, ?_⟩
    have shorter := congrArg (List.take older.length) below
    rw [List.take_take, Nat.min_eq_left (Nat.le_succ _)] at shorter
    rw [shorter, List.take_left' List.length_reverse]

theorem stacked_push (pc : UInt16) (stack slots : List UInt16) (stacked : Stacked stack slots)
    (room : stack.length < 16) :
    Checked.set slots stack.length pc = .ok (slots.set stack.length pc) ∧
      Stacked (pc :: stack) (slots.set stack.length pc) := by
  have inside : stack.length < slots.length := by
    rw [stacked.number]
    exact room
  refine ⟨Checked.set_ok _ _ _ inside, ?_, room, ?_⟩
  · rw [List.length_set, stacked.number]
  · have here : (slots.set stack.length pc)[stack.length]? = some pc := by
      rw [List.getElem?_set, if_pos rfl, if_pos inside]
    rw [List.length_cons, List.take_add_one, here, List.take_set_of_le (Nat.le_refl _), stacked.below,
      List.reverse_cons]
    rfl

theorem return_checked (m : Machine) (slots : List UInt16) (word : Word) (stacked : Stacked m.stack slots) :
    m.Agrees slots word .ret ∧ Stacked (execute m .ret).1.stack slots := by
  have stack : (m.array slots).stack = slots := rfl
  have pointer : (m.array slots).stackPointer = m.stack.length := rfl
  simp only [Agrees, ArrayMachine.execute, stack, pointer, execute]
  cases held : m.stack with
  | nil =>
      rw [held] at stacked
      exact ⟨rfl, by rw [held]; exact stacked⟩
  | cons newest older =>
      rw [held] at stacked
      obtain ⟨top, left⟩ := stacked_top newest older slots stacked
      have counted : Checked.sub (newest :: older).length 1 = .ok older.length :=
        Checked.sub_ok _ 1 (Nat.succ_le_succ (Nat.zero_le _))
      have some : ¬ (newest :: older).length = 0 := Nat.succ_ne_zero older.length
      rw [if_neg some, counted, Checked.ok_bind, top, Checked.ok_bind]
      exact ⟨rfl, left⟩

theorem call_checked (m : Machine) (slots : List UInt16) (word : Word) (stacked : Stacked m.stack slots) :
    ∃ left, (m.array slots).execute word (.call (Word.nnn word)) =
        .ok ((execute m (.call (Word.nnn word))).1.array left, (execute m (.call (Word.nnn word))).2) ∧
      Stacked (execute m (.call (Word.nnn word))).1.stack left := by
  have stack : (m.array slots).stack = slots := rfl
  have pointer : (m.array slots).stackPointer = m.stack.length := rfl
  have counter : (m.array slots).pc = m.pc := rfl
  simp only [ArrayMachine.execute, stack, pointer, counter, execute, Operand.nnn_eq]
  by_cases room : m.stack.length < stackDepth
  · obtain ⟨pushed, left⟩ := stacked_push m.pc m.stack slots stacked room
    have notFull : m.stack.length ≠ 16 := Nat.ne_of_lt room
    refine ⟨slots.set m.stack.length m.pc, ?_, ?_⟩
    · rw [if_neg notFull, if_pos room, pushed]
      rfl
    · rw [if_pos room]
      exact left
  · have full : m.stack.length = 16 := Nat.le_antisymm stacked.depth (Nat.not_lt.mp room)
    refine ⟨slots, ?_, ?_⟩
    · rw [if_pos full, if_neg room]
      rfl
    · rw [if_neg room]
      exact stacked

-- Without its slots the stack is indexed out of bounds.
example : ((fresh .lenient (.ofSeed 0)).array []).execute 0x2204 (Instruction.decode 0x2204) = .error .indexOutOfBounds := rfl

theorem execute_checked (m : Machine) (slots : List UInt16) (word : Word) (stacked : Stacked m.stack slots) :
    ∃ left, (m.array slots).execute word (Instruction.decode word) =
        .ok ((execute m (Instruction.decode word)).1.array left, (execute m (Instruction.decode word)).2) ∧
      Stacked (execute m (Instruction.decode word)).1.stack left := by
  have spelled := Instruction.decode_spells word
  by_cases returns : Instruction.decode word = .ret
  · rw [returns]
    exact ⟨slots, return_checked m slots word stacked⟩
  · by_cases calls : (Instruction.decode word).IsCall
    · obtain ⟨nnn, call⟩ := calls
      have operand : nnn = Word.nnn word := by
        rw [call] at spelled
        cases spelled
        rfl
      rw [call, operand]
      exact call_checked m slots word stacked
    · refine ⟨slots, plain_agrees m slots word _ spelled calls returns, ?_⟩
      rw [execute_keeps_stack m _ calls returns]
      exact stacked

end Machine

end Chip8
