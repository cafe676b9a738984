import Mathlib.Data.List.Forall2
import Chip8.Proofs.Machine.History
import Chip8.Proofs.Machine.Step
import Chip8.Proofs.Memory.Shielded
import Chip8.Proofs.Memory.TwelveBits

set_option autoImplicit false

namespace Chip8.Machine

open Memory (Congruent congruent_refl congruent_add congruent_sub)

-- Lenient machines that differ in high bits of addresses only.
structure Alike (a b : Machine) : Prop where
  lenient : a.memory.mode = .lenient
  memory : a.memory = b.memory
  screen : a.screen = b.screen
  keypad : a.keypad = b.keypad
  registers : a.registers = b.registers
  index : Congruent a.index b.index
  pc : Congruent a.pc b.pc
  stack : List.Forall₂ Congruent a.stack b.stack
  delay : a.delay = b.delay
  sound : a.sound = b.sound
  lastOpcode : a.lastOpcode = b.lastOpcode
  random : a.random = b.random

theorem alike_eq (a b : Machine) (alike : Alike a b) :
    b = { a with index := b.index, pc := b.pc, stack := b.stack } := by
  obtain ⟨_, memory, screen, keypad, registers, _, _, _, delay, sound, lastOpcode, random⟩ := alike
  cases b
  simp only at memory screen keypad registers delay sound lastOpcode random
  rw [memory, screen, keypad, registers, delay, sound, lastOpcode, random]

theorem skip_alike (a b : Machine) (alike : Alike a b) (condition : Bool) :
    Alike (a.skipIf condition) (b.skipIf condition) := by
  cases condition with
  | false => exact alike
  | true => exact { alike with pc := congruent_add a.pc b.pc 2 alike.pc }

theorem store_alike (a b : Machine) (alike : Alike a b) (bytes : List UInt8) :
    (a.store bytes).2 = (b.store bytes).2 ∧ Alike (a.store bytes).1 (b.store bytes).1 := by
  have same : b.memory.write b.index bytes = a.memory.write a.index bytes := by
    rw [← alike.memory, Memory.write_congruent a.memory alike.lenient a.index b.index alike.index bytes]
  have mode : (a.memory.write a.index bytes).1.mode = .lenient :=
    (Memory.write_mode a.memory a.index bytes).trans alike.lenient
  simp only [store, same]
  exact ⟨trivial, { alike with lenient := mode, memory := rfl }⟩

theorem execute_addresses (m : Machine) (index pc : UInt16) (stack : List UInt16)
    (alike : Alike m { m with index := index, pc := pc, stack := stack }) (instruction : Instruction) :
    (execute m instruction).2 = (execute { m with index := index, pc := pc, stack := stack } instruction).2 ∧
      Alike (execute m instruction).1
        (execute { m with index := index, pc := pc, stack := stack } instruction).1 := by
  have lenient := alike.lenient
  have nearIndex : Congruent m.index index := alike.index
  have nearPc : Congruent m.pc pc := alike.pc
  have nearStack : List.Forall₂ Congruent m.stack stack := alike.stack
  cases instruction with
  | ret =>
      generalize old : m.stack = entries at nearStack
      cases nearStack with
      | nil =>
          simp only [execute, old]
          exact ⟨trivial, alike⟩
      | cons nearTop nearRest =>
          simp only [execute, old]
          exact ⟨rfl, { alike with pc := nearTop, stack := nearRest }⟩
  | call nnn =>
      have depth : m.stack.length = stack.length := nearStack.length_eq
      by_cases room : m.stack.length < stackDepth
      · have same : stack.length < stackDepth := by rwa [← depth]
        simp only [execute, if_pos room, if_pos same]
        exact ⟨rfl, { alike with pc := congruent_refl _, stack := .cons nearPc nearStack }⟩
      · have same : ¬ stack.length < stackDepth := by rwa [← depth]
        simp only [execute, if_neg room, if_neg same]
        exact ⟨trivial, alike⟩
  | skipEqImm | skipNeImm | skipEqReg | skipNeReg | skipKeyDown | skipKeyUp =>
      exact ⟨rfl, skip_alike m _ alike _⟩
  | jump nnn => exact ⟨rfl, { alike with pc := congruent_refl _ }⟩
  | jumpOffset nnn => exact ⟨rfl, { alike with pc := congruent_refl _ }⟩
  | waitKey x =>
      simp only [execute]
      cases m.keypad.first with
      | some key => exact ⟨rfl, { alike with registers := rfl }⟩
      | none => exact ⟨rfl, { alike with pc := congruent_sub m.pc pc 2 nearPc }⟩
  | loadIndex nnn => exact ⟨rfl, { alike with index := congruent_refl _ }⟩
  | addIndex x => exact ⟨rfl, { alike with index := congruent_add m.index index _ nearIndex }⟩
  | loadGlyph x => exact ⟨rfl, { alike with index := congruent_refl _ }⟩
  | draw x y n =>
      simp only [execute, ← Memory.read_congruent m.memory lenient m.index index nearIndex]
      cases m.memory.read m.index n.val with
      | error failure => exact ⟨rfl, alike⟩
      | ok rows => exact ⟨rfl, { alike with screen := rfl, registers := rfl }⟩
  | loadRegs x =>
      simp only [execute, ← Memory.read_congruent m.memory lenient m.index index nearIndex]
      cases m.memory.read m.index (x.val + 1) with
      | error failure => exact ⟨rfl, alike⟩
      | ok bytes => exact ⟨rfl, { alike with registers := rfl }⟩
  | storeBcd x => exact store_alike m _ alike _
  | storeRegs x => exact store_alike m _ alike _
  | _ => exact ⟨rfl, ⟨lenient, rfl, rfl, rfl, rfl, nearIndex, nearPc, nearStack, rfl, rfl, rfl, rfl⟩⟩

theorem execute_alike (a b : Machine) (alike : Alike a b) (instruction : Instruction) :
    (execute a instruction).2 = (execute b instruction).2 ∧ Alike (execute a instruction).1 (execute b instruction).1 := by
  have same := alike_eq a b alike
  rw [same] at alike ⊢
  exact execute_addresses a b.index b.pc b.stack alike instruction

theorem fetch_alike (a b : Machine) (alike : Alike a b) : b.memory.fetch b.pc = a.memory.fetch a.pc := by
  rw [← alike.memory, Memory.fetch_congruent a.memory alike.lenient a.pc b.pc alike.pc]

theorem at_program_end_alike (a b : Machine) (alike : Alike a b) : b.atProgramEnd = a.atProgramEnd := by
  rw [atProgramEnd, atProgramEnd, fetch_alike a b alike]

theorem advance_alike (a b : Machine) (alike : Alike a b) (word : Word) : Alike (a.advance word) (b.advance word) :=
  { alike with pc := congruent_add a.pc b.pc 2 alike.pc, lastOpcode := rfl }

-- Two faults of one instruction name the addresses where each machine stands; all else of an answer is equal.
inductive SameAnswer {α : Type} : Except Failure α → Except Failure α → Prop where
  | equal (answer : Except Failure α) : SameAnswer answer answer
  | fault (x y opcode : UInt16) (source : Failure) (near : Congruent x y) :
      SameAnswer (.error (.malformedProgram x opcode source)) (.error (.malformedProgram y opcode source))

theorem same_answer_map {α β : Type} (f : α → β) (first second : Except Failure α) (same : SameAnswer first second) :
    SameAnswer (first.map f) (second.map f) := by
  cases same with
  | equal => exact .equal _
  | fault x y opcode source near => exact .fault x y opcode source near

theorem step_alike (a b : Machine) (alike : Alike a b) :
    SameAnswer a.step.result b.step.result ∧ Alike a.step.machine b.step.machine := by
  have sameFetch := fetch_alike a b alike
  cases a.step_way with
  | unfetched source unfetched =>
      rw [step_unfetched a source unfetched, step_unfetched b source (sameFetch.trans unfetched)]
      exact ⟨.fault a.pc b.pc 0 source alike.pc, alike⟩
  | refused word source fetched refused =>
      obtain ⟨sameResult, _⟩ := execute_alike _ _ (advance_alike a b alike word) (Instruction.decode word)
      rw [step_refused a word source fetched refused,
        step_refused b word source (sameFetch.trans fetched) (sameResult.symm.trans refused)]
      exact ⟨.fault a.pc b.pc word source alike.pc, { alike with lastOpcode := rfl }⟩
  | done word after fetched executed =>
      obtain ⟨sameResult, left⟩ := execute_alike _ _ (advance_alike a b alike word) (Instruction.decode word)
      rw [executed] at sameResult left
      rw [step_done a after word fetched executed,
        step_done b _ word (sameFetch.trans fetched) (Prod.ext rfl sameResult.symm)]
      exact ⟨.equal _, left⟩

inductive Operation.Alike : Operation → Operation → Prop where
  | same (operation : Operation) : Alike operation operation
  | writeByte (x y : UInt16) (byte : UInt8) (near : Congruent x y) :
      Alike (.memory (.writeByte x byte)) (.memory (.writeByte y byte))
  | write (x y : UInt16) (data : List UInt8) (near : Congruent x y) :
      Alike (.memory (.write x data)) (.memory (.write y data))
  | read (x y : UInt16) (count : Nat) (near : Congruent x y) : Alike (.read x count) (.read y count)

theorem change_memory_alike (a b : Machine) (alike : Alike a b) (first second : Memory.Operation)
    (same : a.memory.perform first = a.memory.perform second) :
    SameAnswer (a.changeMemory first).result (b.changeMemory second).result ∧
      Alike (a.changeMemory first).machine (b.changeMemory second).machine := by
  have mode := (Memory.perform_mode a.memory second).trans alike.lenient
  rw [change_memory_machine, change_memory_machine, changeMemory, changeMemory, same, ← alike.memory]
  refine ⟨?_, { alike with lenient := mode, memory := rfl }⟩
  cases a.memory.perform second with
  | mk memory performed =>
      cases performed with
      | error failure => exact .equal _
      | ok notices => exact .equal _

theorem tick_alike (a b : Machine) (alike : Alike a b) : Alike a.tick b.tick :=
  { alike with
    delay := congrArg (fun timer : UInt8 => UInt8.ofNat (timer.toNat - 1)) alike.delay
    sound := congrArg (fun timer : UInt8 => UInt8.ofNat (timer.toNat - 1)) alike.sound }

theorem reset_alike (a b : Machine) (alike : Alike a b) : Alike a.reset b.reset := by
  rw [reset, reset, ← alike.memory, ← alike.random]
  exact ⟨alike.lenient, rfl, rfl, rfl, rfl, rfl, rfl, .nil, rfl, rfl, rfl, rfl⟩

theorem perform_same_alike (a b : Machine) (alike : Alike a b) (operation : Operation) :
    SameAnswer (a.perform operation).result (b.perform operation).result ∧
      Alike (a.perform operation).machine (b.perform operation).machine := by
  cases operation with
  | step =>
      obtain ⟨answer, left⟩ := step_alike a b alike
      exact ⟨same_answer_map _ _ _ answer, left⟩
  | tick => exact ⟨.equal _, tick_alike a b alike⟩
  | key key down =>
      exact ⟨.equal _, { alike with keypad := congrArg (fun keypad => keypad.set key down) alike.keypad }⟩
  | releaseKeys => exact ⟨.equal _, { alike with keypad := rfl }⟩
  | reset => exact ⟨.equal _, reset_alike a b alike⟩
  | memory operation => exact change_memory_alike a b alike operation operation rfl
  | read start count =>
      rw [perform, perform, ← alike.memory]
      exact ⟨.equal _, alike⟩

theorem perform_alike (a b : Machine) (alike : Alike a b) (first second : Operation) (same : first.Alike second) :
    SameAnswer (a.perform first).result (b.perform second).result ∧
      Alike (a.perform first).machine (b.perform second).machine := by
  cases same with
  | same => exact perform_same_alike a b alike first
  | writeByte x y byte near =>
      exact change_memory_alike a b alike _ _ (Memory.perform_write_byte_congruent a.memory alike.lenient x y near byte)
  | write x y data near =>
      exact change_memory_alike a b alike _ _ (Memory.perform_write_congruent a.memory alike.lenient x y near data)
  | read x y count near =>
      rw [perform, perform, ← alike.memory, Memory.read_congruent a.memory alike.lenient x y near]
      exact ⟨.equal _, alike⟩

theorem after_alike (a b : Machine) (alike : Alike a b) (first second : List Operation)
    (same : List.Forall₂ Operation.Alike first second) :
    List.Forall₂ SameAnswer (a.answers first) (b.answers second) ∧ Alike (a.after first) (b.after second) := by
  induction same generalizing a b with
  | nil => exact ⟨.nil, alike⟩
  | cons here _ ih =>
      obtain ⟨answer, next⟩ := perform_alike a b alike _ _ here
      obtain ⟨answers, left⟩ := ih _ _ next
      exact ⟨.cons answer answers, left⟩

theorem lenient_machine_has_twelve_bits (a b : Machine) (alike : Alike a b) :
    (∀ first second : Operation, first.Alike second →
      SameAnswer (a.perform first).result (b.perform second).result ∧
      Alike (a.perform first).machine (b.perform second).machine) ∧
    (∀ x y : UInt16, Congruent x y →
      a.memory.readByte x = b.memory.readByte y ∧ a.memory.fetch x = b.memory.fetch y) ∧
    a.atProgramEnd = b.atProgramEnd ∧
    (∀ first second : List Operation, List.Forall₂ Operation.Alike first second →
      List.Forall₂ SameAnswer (a.answers first) (b.answers second) ∧
      Alike (a.after first) (b.after second)) := by
  refine ⟨perform_alike a b alike, ?_, (at_program_end_alike a b alike).symm, after_alike a b alike⟩
  intro x y near
  rw [← alike.memory]
  exact ⟨Memory.read_byte_congruent a.memory alike.lenient x y near,
    Memory.fetch_congruent a.memory alike.lenient x y near⟩

def lowAddresses : Machine :=
  { fresh .lenient (.ofSeed 0) with
    memory := ((Memory.fresh .lenient).load [0xF1, 0x65, 0x00, 0xEE]).1, index := 0x300, stack := [0x220] }

def highAddresses : Machine :=
  { lowAddresses with index := 0xF300, pc := 0x1200, stack := [0xA220] }

theorem high_addresses_run_alike :
    Alike lowAddresses highAddresses ∧ Congruent 0x2FF 0x52FF ∧
      (highAddresses.after [.memory (.write 0x52FF [1, 2, 3]), .step, .step]).pc = 0xA220 ∧
      (highAddresses.after [.memory (.write 0x52FF [1, 2, 3]), .step, .step]).registers =
        (lowAddresses.after [.memory (.write 0x2FF [1, 2, 3]), .step, .step]).registers := by
  have alike : Alike lowAddresses highAddresses :=
    ⟨rfl, rfl, rfl, rfl, rfl, rfl, rfl, .cons rfl .nil, rfl, rfl, rfl, rfl⟩
  have near : Congruent 0x2FF 0x52FF := rfl
  obtain ⟨_, _, _, runs⟩ := lenient_machine_has_twelve_bits lowAddresses highAddresses alike
  obtain ⟨_, left⟩ := runs _ _
    (.cons (.write 0x2FF 0x52FF [1, 2, 3] near) (.cons (.same .step) (.cons (.same .step) .nil)))
  exact ⟨alike, near, rfl, left.registers.symm⟩

end Chip8.Machine
