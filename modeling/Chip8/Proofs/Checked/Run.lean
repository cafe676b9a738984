import Chip8.Proofs.Checked.Dump
import Chip8.Proofs.Machine.History

set_option autoImplicit false

namespace Chip8

namespace ArrayMachine

def fresh (config : Machine.Config) (entropy : Random.Key) : Checked ArrayMachine := do
  let memory ← ArrayMemory.fresh (decide (config.mode = .strict))
  return {
    memory := memory
    screen := ⟨List.replicate 2048 Screen.darkValue⟩
    keys := List.replicate 16 false
    registers := List.replicate 16 0
    index := 0
    pc := 0x200
    stack := List.replicate 16 0
    stackPointer := 0
    delay := 0
    sound := 0
    lastOpcode := 0
    random := config.stream entropy }

def reset (m : ArrayMachine) : Checked ArrayMachine := do
  let memory ← m.memory.reset
  return { m with
    memory := memory
    screen := m.screen.clear
    keys := List.replicate 16 false
    registers := List.replicate 16 0
    index := 0
    pc := 0x200
    stack := List.replicate 16 0
    stackPointer := 0
    delay := 0
    sound := 0
    lastOpcode := 0 }

def fault (m : ArrayMachine) (pc opcode : UInt16) (source : Failure) : Checked Effect := do
  let _ ← m.coreDump
  return (m, .error (.malformedProgram pc opcode source))

def step (m : ArrayMachine) : Checked Effect := do
  match ← m.memory.readInstruction m.pc with
  | .error source => m.fault m.pc 0 source
  | .ok word =>
      match ← execute { m with lastOpcode := word, pc := m.pc + 2 } word (Instruction.decode word) with
      | (left, .error source) => fault { left with pc := m.pc } m.pc word source
      | (left, .ok _) => return (left, .ok ())

def tick (m : ArrayMachine) : ArrayMachine :=
  { m with delay := UInt8.ofNat (m.delay.toNat - 1), sound := UInt8.ofNat (m.sound.toNat - 1) }

def setKey (m : ArrayMachine) (key : UInt8) (down : Bool) : ArrayMachine :=
  if key.toNat < m.keys.length then { m with keys := m.keys.set key.toNat down } else m

def changeMemory (m : ArrayMachine) (operation : Memory.Operation) :
    Checked (ArrayMachine × Except Failure (List UInt8)) := do
  let (memory, performed) ← m.memory.perform operation
  return ({ m with memory := memory }, performed.map fun _ => [])

def perform (m : ArrayMachine) : Machine.Operation → Checked (ArrayMachine × Except Failure (List UInt8))
  | .step => do
      let (left, stepped) ← m.step
      return (left, stepped.map fun _ => [])
  | .tick => return (m.tick, .ok [])
  | .key key down => return (m.setKey key down, .ok [])
  | .releaseKeys => return ({ m with keys := List.replicate 16 false }, .ok [])
  | .reset => do
      let left ← m.reset
      return (left, .ok [])
  | .memory operation => m.changeMemory operation
  | .read start count => do
      let bytes ← m.memory.readBytes start count
      return (m, bytes)

def run (m : ArrayMachine) : List Machine.Operation → Checked (ArrayMachine × List (Except Failure (List UInt8)))
  | [] => return (m, [])
  | operation :: rest => do
      let (left, answer) ← m.perform operation
      let (last, answers) ← left.run rest
      return (last, answer :: answers)

def registerOf (m : ArrayMachine) (x : UInt8) : Checked UInt8 :=
  Checked.get m.registers (x &&& 0x0F).toNat

def atProgramEnd (m : ArrayMachine) : Checked Bool := do
  match ← m.memory.readInstruction m.pc with
  | .error _ => return false
  | .ok word => return word == 0

structure InBounds (m : ArrayMachine) : Prop where
  memory : m.memory.bytes.length = 4096
  screen : m.screen.values.length = 2048
  banks : m.keys.length = 16 ∧ m.registers.length = 16 ∧ m.stack.length = 16
  pointer : m.stackPointer ≤ 16
  reads : ∀ addr i, m.memory.resolveRead addr = .ok (.ok i) → i < 4096
  writes : ∀ addr i, m.memory.resolveWrite addr = .ok (.ok (some i)) → i < 4096
  fetches : ∀ addr high low, m.memory.resolveFetch addr = .ok (.ok (high, low)) → high < 4096 ∧ low < 4096
  pixels : ∀ x y : Nat, y % 32 * 64 + x % 64 < m.screen.values.length
  selectors : ∀ word, (Operand.x word).toNat ≤ 15 ∧ (Operand.y word).toNat ≤ 15

-- What can be asked of a machine without changing it: each question is answered, and as the machine answers it.
structure Answers (a : ArrayMachine) (m : Machine) : Prop where
  register : ∀ x, a.registerOf x = .ok (m.register (Nibble.low x.toNat))
  key : ∀ key, a.isPressed key = .ok (m.keypad.isPressed key)
  byte : ∀ addr, a.memory.readByte addr = .ok (m.memory.readByte addr)
  word : ∀ addr, a.memory.readInstruction addr = .ok (m.memory.fetch addr)
  pixel : ∀ x y, a.screen.isOn x y = .ok (m.screen.isOn x y)
  sprite : ∀ x y rows, a.screen.draw x y rows = .ok (Screen.arrayed (m.screen.draw x y rows))
  glyph : ∀ digit, ArrayMemory.glyphAddress digit = .ok (Glyph.address digit)
  stack : a.stackView = .ok m.stack.reverse
  dump : a.coreDump = .ok m.coreDump
  ended : a.atProgramEnd = .ok m.atProgramEnd

end ArrayMachine

namespace Machine

theorem stacked_empty : Stacked [] (List.replicate 16 0) where
  number := List.length_replicate
  depth := Nat.zero_le 16
  below := rfl

theorem of_fn_fill {α : Type} (value : α) : List.ofFn (Bank.fill value).get = List.replicate 16 value := by
  symm
  apply eq_of_fn
  · exact List.length_replicate
  · intro x
    rw [List.getElem?_replicate, if_pos x.isLt, Bank.get_fill]

theorem of_fn_released : List.ofFn Keypad.released.keys.get = List.replicate 16 false :=
  of_fn_fill false

theorem of_fn_zeros : List.ofFn (Bank.fill (0 : UInt8)).get = List.replicate 16 0 :=
  of_fn_fill 0

theorem fresh_checked (config : Config) (entropy : Random.Key) :
    ArrayMachine.fresh config entropy = .ok ((ofConfig config entropy).array (List.replicate 16 0)) := by
  simp only [ArrayMachine.fresh, Memory.fresh_checked, Checked.ok_bind, Checked.pure_eq, Screen.blank_array,
    ← of_fn_released, ← of_fn_zeros]
  rfl

theorem reset_checked (m : Machine) (slots : List UInt16) :
    (m.array slots).reset = .ok (m.reset.array (List.replicate 16 0)) := by
  have memory : (m.array slots).memory.reset = .ok m.memory.reset.array := Memory.reset_checked m.memory
  have screen : (m.array slots).screen.clear = Screen.blank.array := Screen.clear_checked m.screen
  simp only [ArrayMachine.reset, memory, screen, Checked.ok_bind, Checked.pure_eq, ← of_fn_released, ← of_fn_zeros]
  rfl

-- Where a machine on arrays does without a panic what the machine does, its stack stays below the pointer.
def Performs {α : Type} (checked : Checked (ArrayMachine × Except Failure α)) (left : Machine)
    (answer : Except Failure α) : Prop :=
  ∃ slots, checked = .ok (left.array slots, answer) ∧ Stacked left.stack slots

theorem fault_performs (m : Machine) (slots : List UInt16) (stacked : Stacked m.stack slots) (pc opcode : UInt16)
    (source : Failure) :
    Performs ((m.array slots).fault pc opcode source) m (.error (.malformedProgram pc opcode source)) := by
  refine ⟨slots, ?_, stacked⟩
  rw [ArrayMachine.fault, core_dump_checked m slots stacked]
  rfl

theorem step_performs (m : Machine) (slots : List UInt16) (stacked : Stacked m.stack slots) :
    Performs (m.array slots).step m.step.machine m.step.result := by
  have fetching : (m.array slots).memory.readInstruction (m.array slots).pc = .ok (m.memory.fetch m.pc) :=
    Memory.read_instruction_checked m.memory m.pc
  rw [ArrayMachine.step, fetching, Checked.ok_bind, step]
  cases m.memory.fetch m.pc with
  | error source => exact fault_performs m slots stacked m.pc 0 source
  | ok word =>
      obtain ⟨left, executed, restacked⟩ := execute_checked (m.advance word) slots word stacked
      have advanced : ArrayMachine.execute
          { m.array slots with lastOpcode := word, pc := (m.array slots).pc + 2 } word (Instruction.decode word) = _ :=
        executed
      simp only [advanced, Checked.ok_bind]
      cases effect : execute (m.advance word) (Instruction.decode word) with
      | mk machine result =>
          rw [effect] at restacked
          cases result with
          | error source => exact fault_performs { machine with pc := m.pc } left restacked m.pc word source
          | ok => exact ⟨left, rfl, restacked⟩

theorem change_memory_performs (m : Machine) (slots : List UInt16) (stacked : Stacked m.stack slots)
    (operation : Memory.Operation) :
    Performs ((m.array slots).changeMemory operation) (m.changeMemory operation).machine
      (m.changeMemory operation).result := by
  have changing : (m.array slots).memory.perform operation =
      .ok ((m.memory.perform operation).1.array, (m.memory.perform operation).2.map fun _ => ()) :=
    Memory.perform_checked m.memory operation
  rw [ArrayMachine.changeMemory, changing, changeMemory]
  cases m.memory.perform operation with
  | mk memory performed => cases performed <;> exact ⟨slots, rfl, stacked⟩

theorem set_key_array (m : Machine) (slots : List UInt16) (key : UInt8) (down : Bool) :
    (m.array slots).setKey key down = (m.setKey key down).array slots := by
  have number : (m.array slots).keys.length = 16 := List.length_ofFn
  rw [ArrayMachine.setKey, number, setKey, Keypad.set]
  by_cases inside : key.toNat < 16
  · have place : (Nibble.low key.toNat).val = key.toNat := Nat.mod_eq_of_lt inside
    have stored := set_of_fn m.keypad.keys.get _ (Nibble.low key.toNat) down
      fun other => Bank.get_set m.keypad.keys (Nibble.low key.toNat) other down
    rw [place, Checked.set_ok _ _ _ (by rw [List.length_ofFn]; exact inside)] at stored
    have keys : (m.array slots).keys.set key.toNat down = _ := Except.ok.inj stored
    rw [if_pos inside, if_pos inside, keys]
    rfl
  · rw [if_neg inside, if_neg inside]

theorem perform_performs (m : Machine) (slots : List UInt16) (stacked : Stacked m.stack slots)
    (operation : Operation) :
    Performs ((m.array slots).perform operation) (m.perform operation).machine (m.perform operation).result := by
  cases operation with
  | step =>
      obtain ⟨left, stepped, restacked⟩ := step_performs m slots stacked
      refine ⟨left, ?_, restacked⟩
      rw [ArrayMachine.perform, stepped]
      rfl
  | tick => exact ⟨slots, rfl, stacked⟩
  | key key down =>
      refine ⟨slots, ?_, stacked⟩
      rw [ArrayMachine.perform, set_key_array]
      rfl
  | releaseKeys =>
      refine ⟨slots, ?_, stacked⟩
      rw [ArrayMachine.perform, ← of_fn_released]
      rfl
  | reset =>
      refine ⟨List.replicate 16 0, ?_, stacked_empty⟩
      rw [ArrayMachine.perform, reset_checked]
      rfl
  | memory operation => exact change_memory_performs m slots stacked operation
  | read start count =>
      have reading : (m.array slots).memory.readBytes start count = .ok (m.memory.read start count) :=
        Memory.read_bytes_checked m.memory start count
      refine ⟨slots, ?_, stacked⟩
      rw [ArrayMachine.perform, reading]
      rfl

theorem run_checked (m : Machine) (slots : List UInt16) (stacked : Stacked m.stack slots) (history : List Operation) :
    ∃ left, (m.array slots).run history = .ok ((m.after history).array left, m.answers history) ∧
      Stacked (m.after history).stack left := by
  induction history generalizing m slots with
  | nil => exact ⟨slots, rfl, stacked⟩
  | cons operation rest ih =>
      obtain ⟨next, performed, restacked⟩ := perform_performs m slots stacked operation
      obtain ⟨left, ran, last⟩ := ih (m.perform operation).machine next restacked
      refine ⟨left, ?_, last⟩
      rw [ArrayMachine.run, performed]
      simp only [Checked.ok_bind, ran]
      rfl

theorem dead_slots_not_seen (m : Machine) (slots others : List UInt16) (stacked : Stacked m.stack slots)
    (number : others.length = 16) (live : others.take m.stack.length = slots.take m.stack.length)
    (history : List Operation) :
    ∃ a b, (m.array slots).run history = .ok (a, m.answers history) ∧
      ArrayMachine.run { m.array slots with stack := others } history = .ok (b, m.answers history) ∧
      b = { a with stack := b.stack } ∧ b.stack.take a.stackPointer = a.stack.take a.stackPointer := by
  have restacked : Stacked m.stack others := ⟨number, stacked.depth, live.trans stacked.below⟩
  obtain ⟨first, ran, firstStacked⟩ := run_checked m slots stacked history
  obtain ⟨second, again, secondStacked⟩ := run_checked m others restacked history
  exact ⟨_, _, ran, again, rfl, secondStacked.below.trans firstStacked.below.symm⟩

theorem value_of_map {ε α β : Type} {f : α → β} (result : Except ε α) {value : β} (mapped : result.map f = .ok value) :
    ∃ found, f found = value := by
  cases result with
  | error failure => cases mapped
  | ok found => exact ⟨found, Except.ok.inj mapped⟩

theorem array_in_bounds (m : Machine) (slots : List UInt16) (stacked : Stacked m.stack slots) :
    (m.array slots).InBounds where
  memory := Memory.length_array m.memory
  screen := Screen.length_array m.screen
  banks := ⟨List.length_ofFn, List.length_ofFn, stacked.number⟩
  pointer := stacked.depth
  reads := by
    intro addr i resolved
    have cells := (Memory.resolve_read_checked m.memory addr).symm.trans resolved
    obtain ⟨cell, rfl⟩ := value_of_map _ (Except.ok.inj cells)
    exact cell.isLt
  writes := by
    intro addr i resolved
    have cells := (Memory.resolve_write_checked m.memory addr).symm.trans resolved
    obtain ⟨target, aimed⟩ := value_of_map _ (Except.ok.inj cells)
    obtain ⟨cell, -, rfl⟩ := Option.map_eq_some_iff.mp aimed
    exact cell.isLt
  fetches := by
    intro addr high low resolved
    have cells := (Memory.resolve_fetch_checked m.memory addr).symm.trans resolved
    obtain ⟨pair, same⟩ := value_of_map _ (Except.ok.inj cells)
    obtain ⟨rfl, rfl⟩ := Prod.mk.inj same
    exact ⟨pair.1.isLt, pair.2.isLt⟩
  pixels := by
    intro x y
    have number : (m.array slots).screen.values.length = 2048 := Screen.length_array m.screen
    omega
  selectors := by
    intro word
    rw [Operand.x_to_nat, Operand.y_to_nat]
    omega

theorem register_of_checked (m : Machine) (slots : List UInt16) (x : UInt8) :
    (m.array slots).registerOf x = .ok (m.register (Nibble.low x.toNat)) := by
  have nibble : (x &&& 0x0F).toNat = (Nibble.low x.toNat).val := Checked.masked_low_nibble x
  rw [ArrayMachine.registerOf, nibble]
  exact get_of_fn m.registers.get (Nibble.low x.toNat)

theorem at_program_end_checked (m : Machine) (slots : List UInt16) :
    (m.array slots).atProgramEnd = .ok m.atProgramEnd := by
  have fetching : (m.array slots).memory.readInstruction (m.array slots).pc = .ok (m.memory.fetch m.pc) :=
    Memory.read_instruction_checked m.memory m.pc
  rw [ArrayMachine.atProgramEnd, fetching, atProgramEnd]
  cases m.memory.fetch m.pc <;> rfl

theorem array_answers (m : Machine) (slots : List UInt16) (stacked : Stacked m.stack slots) :
    (m.array slots).Answers m where
  register := register_of_checked m slots
  key := is_pressed_checked m slots
  byte := Memory.read_byte_checked m.memory
  word := Memory.read_instruction_checked m.memory
  pixel := Screen.is_on_checked m.screen
  sprite := Screen.draw_checked m.screen
  glyph := Memory.glyph_address_checked
  stack := stack_view_checked m slots stacked
  dump := core_dump_checked m slots stacked
  ended := at_program_end_checked m slots

theorem no_operation_panics (config : Config) (entropy : Random.Key) (history : List Operation) :
    ∃ a, (ArrayMachine.fresh config entropy >>= fun fresh => fresh.run history) =
        .ok (a, (ofConfig config entropy).answers history) ∧
      a.InBounds ∧ a.Answers ((ofConfig config entropy).after history) := by
  obtain ⟨slots, ran, stacked⟩ := run_checked (ofConfig config entropy) (List.replicate 16 0) stacked_empty history
  refine ⟨_, ?_, array_in_bounds _ slots stacked, array_answers _ slots stacked⟩
  rw [fresh_checked, Checked.ok_bind, ran]

end Machine

end Chip8
