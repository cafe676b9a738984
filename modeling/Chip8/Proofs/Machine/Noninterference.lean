import Chip8.Proofs.Machine.Effect
import Chip8.Proofs.Memory.Agreement

set_option autoImplicit false

namespace Chip8.Machine

structure Agree (a b : Machine) : Prop where
  mode : a.memory.mode = b.memory.mode
  screen : a.screen = b.screen
  keypad : a.keypad = b.keypad
  registers : a.registers = b.registers
  index : a.index = b.index
  pc : a.pc = b.pc
  stack : a.stack = b.stack
  delay : a.delay = b.delay
  sound : a.sound = b.sound
  random : a.random = b.random

theorem agree_eq (a b : Machine) (agree : Agree a b) :
    b = { a with memory := b.memory, lastOpcode := b.lastOpcode } := by
  obtain ⟨_, screen, keypad, registers, index, pc, stack, delay, sound, random⟩ := agree
  cases b
  simp only at screen keypad registers index pc stack delay sound random
  rw [screen, keypad, registers, index, pc, stack, delay, sound, random]

theorem agree_memory (m : Machine) (memory : Memory) (mode : m.memory.mode = memory.mode) :
    Agree m { m with memory := memory } :=
  ⟨mode, rfl, rfl, rfl, rfl, rfl, rfl, rfl, rfl, rfl⟩

def cellsFrom (start : UInt16) (count : Nat) : List Memory.Cell :=
  (List.range count).map fun j => Memory.Cell.low (start.toNat + j)

-- A step that fetches nothing looks at no cell, and one that faults later at those of its instruction only.
def seenByStep (m : Machine) : List Memory.Cell :=
  match m.fetchedWord, m.step.result with
  | none, _ => []
  | some _, .error _ => cellsFrom m.pc 2
  | some word, .ok _ => cellsFrom m.pc 2 ++ cellsFrom m.index word.reads

def overwrites (m : Machine) (c : Memory.Cell) : Option UInt8 :=
  match m.fetchedWord, m.step.result with
  | some word, .ok _ => Memory.written m.index (m.stored (Instruction.decode word)) c
  | _, _ => none

theorem execute_stores (m : Machine) (instruction : Instruction) (done : (execute m instruction).2 = .ok ()) :
    (m.memory.write m.index (m.stored instruction)).2 = .ok () := by
  cases instruction with
  | storeBcd x => exact done
  | storeRegs x => exact done
  | _ => rfl

theorem stored_advance (m : Machine) (word : Word) (instruction : Instruction) :
    (m.advance word).stored instruction = m.stored instruction := by
  cases instruction <;> rfl

theorem step_cell (m : Machine) (c : Memory.Cell) :
    m.step.machine.memory.cell c = (m.overwrites c).getD (m.memory.cell c) := by
  cases m.step_way with
  | unfetched source unfetched =>
      have nothing : m.fetchedWord = none := by simp [fetchedWord, unfetched, Except.toOption]
      rw [step_unfetched m source unfetched, overwrites, nothing]
      rfl
  | refused word source fetched refused =>
      rw [overwrites, (fetched_word_iff m word).mpr fetched, step_refused m word source fetched refused]
      rfl
  | done word after fetched executed =>
      have memory := execute_memory (m.advance word) (Instruction.decode word)
      have stores := execute_stores (m.advance word) (Instruction.decode word) (by rw [executed])
      have written := Memory.write_done _ _ _ c stores
      rw [← memory, executed, stored_advance] at written
      rw [overwrites, (fetched_word_iff m word).mpr fetched, step_done m after word fetched executed]
      exact written

theorem step_last_opcode (m : Machine) : m.step.machine.lastOpcode = m.fetchedWord.getD m.lastOpcode := by
  cases result : m.step.result with
  | error failure => rw [fault_machine m failure result]
  | ok =>
      cases fetched : m.fetchedWord with
      | some word => exact executes_last_opcode m word ⟨fetched, result⟩
      | none => exact (step_unfetched_same m fetched .lastOpcode).symm

theorem skip_with_memory (m : Machine) (memory : Memory) (condition : Bool) :
    ({ m with memory := memory } : Machine).skipIf condition = { m.skipIf condition with memory := memory } := by
  cases condition <;> rfl

-- One machine and another memory in it: what the two share is the same term on both sides.
theorem execute_with_memory (m : Machine) (memory : Memory) (mode : m.memory.mode = memory.mode)
    (instruction : Instruction)
    (read : m.memory.read m.index instruction.reads = memory.read m.index instruction.reads) :
    execute { m with memory := memory } instruction =
      ({ (execute m instruction).1 with memory := (memory.write m.index (m.stored instruction)).1 },
        (execute m instruction).2) := by
  cases instruction with
  | ret =>
      have nothing : memory.write m.index (m.stored .ret) = (memory, .ok ()) := rfl
      cases stack : m.stack <;> simp [execute, done, stack, nothing]
  | call nnn =>
      have nothing : memory.write m.index (m.stored (.call nnn)) = (memory, .ok ()) := rfl
      by_cases room : m.stack.length < stackDepth <;> simp [execute, done, room, nothing]
  | skipEqImm | skipNeImm | skipEqReg | skipNeReg | skipKeyDown | skipKeyUp =>
      exact Prod.ext (skip_with_memory m memory _) rfl
  | waitKey x =>
      simp only [execute]
      cases m.keypad.first <;> rfl
  | draw x y n =>
      have rows : m.memory.read m.index n.val = memory.read m.index n.val := read
      simp only [execute, ← rows]
      cases m.memory.read m.index n.val <;> rfl
  | loadRegs x =>
      have bytes : m.memory.read m.index (x.val + 1) = memory.read m.index (x.val + 1) := read
      simp only [execute, ← bytes]
      cases m.memory.read m.index (x.val + 1) <;> rfl
  | storeBcd x =>
      exact Prod.ext rfl (Memory.write_result_agree m.memory memory mode m.index (decimalDigits (m.register x))).symm
  | storeRegs x => exact Prod.ext rfl (Memory.write_result_agree m.memory memory mode m.index _).symm
  | _ => rfl

theorem refuses_agree (a b : Machine) (agree : Agree a b) (instruction : Instruction) (failure : Failure)
    (refused : a.Refuses instruction failure) : b.Refuses instruction failure := by
  rw [Refuses, agree.stack, agree.mode, agree.index] at refused
  exact refused

theorem instruction_seen (m : Machine) (word : Word) (fetched : m.fetchedWord = some word) (c : Memory.Cell)
    (member : c ∈ cellsFrom m.pc 2) : c ∈ m.seenByStep := by
  rw [seenByStep, fetched]
  cases m.step.result with
  | error failure => exact member
  | ok => exact List.mem_append_left _ member

theorem mem_cells_from (start : UInt16) (count j : Nat) (inside : j < count) :
    Memory.Cell.low (start.toNat + j) ∈ cellsFrom start count :=
  List.mem_map.mpr ⟨j, List.mem_range.mpr inside, rfl⟩

theorem fetch_seen (a b : Machine) (agree : Agree a b)
    (same : ∀ c ∈ a.seenByStep, a.memory.cell c = b.memory.cell c) : a.memory.fetch a.pc = b.memory.fetch b.pc := by
  rw [← agree.pc]
  apply Memory.fetch_agree a.memory b.memory agree.mode
  intro word fetched
  have seen := instruction_seen a word ((fetched_word_iff a word).mpr fetched)
  have high := same _ (seen _ (mem_cells_from a.pc 2 0 (by decide)))
  have low := same _ (seen _ (mem_cells_from a.pc 2 1 (by decide)))
  exact ⟨high, low⟩

theorem read_seen (a b : Machine) (agree : Agree a b)
    (same : ∀ c ∈ a.seenByStep, a.memory.cell c = b.memory.cell c) (word : Word) (executed : a.Executes word) :
    a.memory.read a.index (Instruction.decode word).reads = b.memory.read a.index (Instruction.decode word).reads := by
  rw [(Instruction.decode_fits word).reads]
  apply Memory.read_agree a.memory b.memory agree.mode
  intro _ _ j inside
  apply same
  rw [seenByStep, executed.1, executed.2]
  exact List.mem_append_right _ (mem_cells_from a.index word.reads j inside)

theorem advance_agree (a b : Machine) (agree : Agree a b) (word : Word) :
    b.advance word = { a.advance word with memory := b.memory } := by
  rw [advance, agree_eq a b agree]
  rfl

theorem step_agree (a b : Machine) (agree : Agree a b)
    (same : ∀ c ∈ a.seenByStep, a.memory.cell c = b.memory.cell c) :
    a.step.result = b.step.result ∧ Agree a.step.machine b.step.machine := by
  have sameFetch := fetch_seen a b agree same
  cases a.step_way with
  | unfetched source unfetched =>
      rw [step_unfetched a source unfetched, step_unfetched b source (sameFetch.symm.trans unfetched), agree.pc]
      exact ⟨rfl, agree⟩
  | refused word source fetched refused =>
      have advanced : Agree (a.advance word) (b.advance word) := by
        rw [advance_agree a b agree word]
        exact agree_memory _ b.memory agree.mode
      have reason := (execute_error_iff _ _ source).mp refused
      have refusedToo := (execute_error_iff _ _ source).mpr (refuses_agree _ _ advanced _ source reason)
      rw [step_refused a word source fetched refused,
        step_refused b word source (sameFetch.symm.trans fetched) refusedToo]
      exact ⟨by rw [agree.pc], { agree with }⟩
  | done word after fetched executed =>
      have stepped := step_done a after word fetched executed
      have executes : a.Executes word := ⟨(fetched_word_iff a word).mpr fetched, by rw [stepped]⟩
      have read := read_seen a b agree same word executes
      have effect := execute_with_memory (a.advance word) b.memory agree.mode (Instruction.decode word) read
      rw [← advance_agree a b agree word, executed] at effect
      have mode : after.memory.mode = (b.memory.write a.index (a.stored (Instruction.decode word))).1.mode := by
        have kept := step_mode a
        rw [stepped] at kept
        rw [Memory.write_mode, ← agree.mode]
        exact kept
      rw [stepped, step_done b _ word (sameFetch.symm.trans fetched) effect, stored_advance]
      exact ⟨rfl, agree_memory after _ mode⟩

theorem fetched_word_agree (a b : Machine) (agree : Agree a b)
    (same : ∀ c ∈ a.seenByStep, a.memory.cell c = b.memory.cell c) : a.fetchedWord = b.fetchedWord :=
  congrArg Except.toOption (fetch_seen a b agree same)

theorem stored_agree (a b : Machine) (agree : Agree a b) (instruction : Instruction) :
    a.stored instruction = b.stored instruction := by
  rw [agree_eq a b agree]
  cases instruction <;> rfl

theorem overwrites_agree (a b : Machine) (agree : Agree a b)
    (same : ∀ c ∈ a.seenByStep, a.memory.cell c = b.memory.cell c) (c : Memory.Cell) :
    a.overwrites c = b.overwrites c := by
  rw [overwrites, overwrites, fetched_word_agree a b agree same, (step_agree a b agree same).1, agree.index]
  simp only [stored_agree a b agree]

def seenBy (m : Machine) : Operation → List Memory.Cell
  | .step => m.seenByStep
  | .read start count =>
      match m.memory.read start count with
      | .ok _ => cellsFrom start count
      | .error _ => []
  | .tick | .key _ _ | .releaseKeys | .reset | .memory _ => []

def overwrittenBy (m : Machine) (c : Memory.Cell) : Operation → Option UInt8
  | .step => m.overwrites c
  | .reset => some (Memory.initialByte c)
  | .memory operation =>
      match (m.memory.perform operation).2 with
      | .ok _ => operation.covering c
      | .error _ => none
  | .tick | .key _ _ | .releaseKeys | .read _ _ => none

theorem perform_cell (m : Machine) (operation : Operation) (c : Memory.Cell) :
    (m.perform operation).machine.memory.cell c = (m.overwrittenBy c operation).getD (m.memory.cell c) := by
  cases operation with
  | step => exact step_cell m c
  | reset => exact Memory.cell_reset m.memory c
  | memory operation =>
      rw [perform, change_memory_machine, overwrittenBy]
      cases result : (m.memory.perform operation).2 with
      | error failure => exact congrArg (Memory.cell · c) (Memory.perform_refused m.memory operation failure result)
      | ok notices => exact Memory.perform_done m.memory operation c notices result
  | _ => rfl

theorem change_memory_answer (m : Machine) (operation : Memory.Operation) :
    (m.changeMemory operation).result = (m.memory.perform operation).2.map fun _ => [] := by
  rw [changeMemory]
  cases m.memory.perform operation with
  | mk memory performed => cases performed <;> rfl

theorem read_answer_agree (a b : Machine) (agree : Agree a b) (start : UInt16) (count : Nat)
    (same : ∀ c ∈ a.seenBy (.read start count), a.memory.cell c = b.memory.cell c) :
    a.memory.read start count = b.memory.read start count := by
  apply Memory.read_agree a.memory b.memory agree.mode
  intro bytes taken j inside
  apply same
  rw [seenBy, taken]
  exact mem_cells_from start count j inside

theorem perform_agree (a b : Machine) (agree : Agree a b) (operation : Operation)
    (same : ∀ c ∈ a.seenBy operation, a.memory.cell c = b.memory.cell c) :
    (a.perform operation).result = (b.perform operation).result ∧
      Agree (a.perform operation).machine (b.perform operation).machine := by
  cases operation with
  | step =>
      obtain ⟨result, left⟩ := step_agree a b agree same
      exact ⟨congrArg (Except.map fun _ => []) result, left⟩
  | tick =>
      exact ⟨rfl,
        { agree with
          delay := congrArg (fun timer : UInt8 => UInt8.ofNat (timer.toNat - 1)) agree.delay
          sound := congrArg (fun timer : UInt8 => UInt8.ofNat (timer.toNat - 1)) agree.sound }⟩
  | key key down => exact ⟨rfl, { agree with keypad := congrArg (fun keypad => keypad.set key down) agree.keypad }⟩
  | releaseKeys => exact ⟨rfl, { agree with keypad := rfl }⟩
  | reset => exact ⟨rfl, ⟨agree.mode, rfl, rfl, rfl, rfl, rfl, rfl, rfl, rfl, agree.random⟩⟩
  | memory operation =>
      have mode : (a.memory.perform operation).1.mode = (b.memory.perform operation).1.mode := by
        rw [Memory.perform_mode, Memory.perform_mode, agree.mode]
      rw [perform, perform, change_memory_machine, change_memory_machine, change_memory_answer, change_memory_answer,
        Memory.perform_result_agree a.memory b.memory agree.mode]
      exact ⟨rfl, { agree with mode := mode }⟩
  | read start count => exact ⟨read_answer_agree a b agree start count same, agree⟩

theorem overwritten_agree (a b : Machine) (agree : Agree a b) (operation : Operation)
    (same : ∀ c ∈ a.seenBy operation, a.memory.cell c = b.memory.cell c) (c : Memory.Cell) :
    a.overwrittenBy c operation = b.overwrittenBy c operation := by
  cases operation with
  | step => exact overwrites_agree a b agree same c
  | memory operation =>
      rw [overwrittenBy, overwrittenBy, Memory.perform_result_agree a.memory b.memory agree.mode]
  | _ => rfl

-- Some operation of the history looks at the cell while it still holds what it held at the start.
def LooksAt (m : Machine) (c : Memory.Cell) : List Operation → Prop
  | [] => False
  | operation :: rest =>
      c ∈ m.seenBy operation ∨
        m.overwrittenBy c operation = none ∧ (m.perform operation).machine.LooksAt c rest

instance decideLooksAt (c : Memory.Cell) :
    (m : Machine) → (history : List Operation) → Decidable (m.LooksAt c history)
  | _, [] => inferInstanceAs (Decidable False)
  | m, operation :: rest =>
      have := decideLooksAt c (m.perform operation).machine rest
      inferInstanceAs (Decidable (_ ∨ _ ∧ _))

def overwrittenIn (m : Machine) (c : Memory.Cell) : List Operation → Option UInt8
  | [] => none
  | operation :: rest => ((m.perform operation).machine.overwrittenIn c rest).or (m.overwrittenBy c operation)

theorem after_cell (m : Machine) (history : List Operation) (c : Memory.Cell) :
    (m.after history).memory.cell c = (m.overwrittenIn c history).getD (m.memory.cell c) := by
  induction history generalizing m with
  | nil => rfl
  | cons operation rest ih => rw [after_cons, ih, perform_cell, overwrittenIn, Option.getD_or]

-- A cell that the rest looks at agrees by then: it did so from the start, or the operation has overwritten it.
theorem later_agree (a b : Machine) (agree : Agree a b) (operation : Operation) (rest : List Operation)
    (same : ∀ c, a.LooksAt c (operation :: rest) → a.memory.cell c = b.memory.cell c) (c : Memory.Cell)
    (later : (a.perform operation).machine.LooksAt c rest) :
    (a.perform operation).machine.memory.cell c = (b.perform operation).machine.memory.cell c := by
  have written := overwritten_agree a b agree operation (fun other seen => same other (.inl seen)) c
  rw [perform_cell, perform_cell, ← written]
  cases left : a.overwrittenBy c operation with
  | some byte => rfl
  | none => exact same c (.inr ⟨left, later⟩)

theorem answers_agree (a b : Machine) (agree : Agree a b) (history : List Operation)
    (same : ∀ c, a.LooksAt c history → a.memory.cell c = b.memory.cell c) :
    a.answers history = b.answers history := by
  induction history generalizing a b with
  | nil => rfl
  | cons operation rest ih =>
      obtain ⟨answer, next⟩ := perform_agree a b agree operation fun c seen => same c (.inl seen)
      rw [answers, answers, answer, ih _ _ next (later_agree a b agree operation rest same)]

theorem after_agree (a b : Machine) (agree : Agree a b) (history : List Operation)
    (same : ∀ c, a.LooksAt c history → a.memory.cell c = b.memory.cell c) :
    Agree (a.after history) (b.after history) ∧ ∀ c, a.overwrittenIn c history = b.overwrittenIn c history := by
  induction history generalizing a b with
  | nil => exact ⟨agree, fun _ => rfl⟩
  | cons operation rest ih =>
      have seen : ∀ c ∈ a.seenBy operation, a.memory.cell c = b.memory.cell c := fun c member => same c (.inl member)
      obtain ⟨_, next⟩ := perform_agree a b agree operation seen
      obtain ⟨left, written⟩ := ih _ _ next (later_agree a b agree operation rest same)
      refine ⟨left, ?_⟩
      intro c
      rw [overwrittenIn, overwrittenIn, written c, overwritten_agree a b agree operation seen c]

theorem looks_at_earlier (m : Machine) (c : Memory.Cell) (earlier later : List Operation)
    (looks : m.LooksAt c earlier) : m.LooksAt c (earlier ++ later) := by
  induction earlier generalizing m with
  | nil => exact absurd looks id
  | cons operation rest ih =>
      rcases looks with seen | ⟨kept, looks⟩
      · exact .inl seen
      · exact .inr ⟨kept, ih _ looks⟩

theorem step_sees_what_it_reads (a b : Machine) (agree : Agree a b) :
    ((∀ c ∈ a.seenByStep, a.memory.cell c = b.memory.cell c) →
      a.step.result = b.step.result ∧
      Agree a.step.machine b.step.machine ∧
      (∀ word, a.fetchedWord = some word → a.step.machine.lastOpcode = word ∧ b.step.machine.lastOpcode = word) ∧
      ∀ c, a.overwrites c = b.overwrites c ∧
        a.step.machine.memory.cell c = (a.overwrites c).getD (a.memory.cell c) ∧
        b.step.machine.memory.cell c = (b.overwrites c).getD (b.memory.cell c)) ∧
    (∀ history : List Operation, (∀ c, a.LooksAt c history → a.memory.cell c = b.memory.cell c) →
      a.answers history = b.answers history ∧
      (∀ earlier, earlier <+: history → Agree (a.after earlier) (b.after earlier)) ∧
      ∀ c, a.overwrittenIn c history = b.overwrittenIn c history ∧
        (a.after history).memory.cell c = (a.overwrittenIn c history).getD (a.memory.cell c) ∧
        (b.after history).memory.cell c = (b.overwrittenIn c history).getD (b.memory.cell c)) := by
  refine ⟨?_, ?_⟩
  · intro same
    obtain ⟨result, left⟩ := step_agree a b agree same
    refine ⟨result, left, ?_, fun c => ⟨overwrites_agree a b agree same c, step_cell a c, step_cell b c⟩⟩
    intro word fetched
    rw [step_last_opcode, step_last_opcode, ← fetched_word_agree a b agree same, fetched]
    exact ⟨rfl, rfl⟩
  · intro history same
    obtain ⟨_, written⟩ := after_agree a b agree history same
    refine ⟨answers_agree a b agree history same, ?_, ?_⟩
    · rintro earlier ⟨later, rfl⟩
      have early : ∀ c, a.LooksAt c earlier → a.memory.cell c = b.memory.cell c :=
        fun c looks => same c (looks_at_earlier a c earlier later looks)
      exact (after_agree a b agree earlier early).1
    · exact fun c => ⟨written c, after_cell a history c, after_cell b history c⟩

def digitsBack : Machine :=
  { fresh .strict (.ofSeed 0) with
    memory := ((Memory.fresh .strict).load [0xF7, 0x33, 0xF1, 0x65]).1
    registers := (Bank.fill 0).set (Nibble.low 7) 0x7B
    index := 0x300 }

def litteredDigits : Machine :=
  { digitsBack with
    memory := (digitsBack.memory.setCell (Memory.Cell.low 0x300) 0xAA).setCell (Memory.Cell.low 0x400) 0xBB
    lastOpcode := 0x1234 }

def digitsRun : List Operation :=
  [.step, .tick, .step, .step, .memory (.writeByte 0x400 5), .read 0x400 1]

theorem litter_is_not_seen :
    Agree digitsBack litteredDigits ∧
      (∀ c ∈ digitsBack.seenByStep, digitsBack.memory.cell c = litteredDigits.memory.cell c) ∧
      (∀ c, digitsBack.LooksAt c digitsRun → digitsBack.memory.cell c = litteredDigits.memory.cell c) ∧
      litteredDigits.step.machine.lastOpcode = 0xF733 ∧
      litteredDigits.answers digitsRun = [.ok [], .ok [], .ok [], .ok [], .ok [], .ok [5]] ∧
      (litteredDigits.after [.step, .tick, .step]).registers = (digitsBack.after [.step, .tick, .step]).registers := by
  have agree : Agree digitsBack litteredDigits := ⟨rfl, rfl, rfl, rfl, rfl, rfl, rfl, rfl, rfl, rfl⟩
  obtain ⟨oneStep, runs⟩ := step_sees_what_it_reads digitsBack litteredDigits agree
  have same : ∀ c, digitsBack.LooksAt c digitsRun → digitsBack.memory.cell c = litteredDigits.memory.cell c := by
    intro c looks
    by_cases overwritten : c = Memory.Cell.low 0x300
    · subst overwritten
      exact absurd looks (by decide +kernel)
    · by_cases unread : c = Memory.Cell.low 0x400
      · subst unread
        exact absurd looks (by decide +kernel)
      · change digitsBack.memory.cell c =
          ((digitsBack.memory.setCell (Memory.Cell.low 0x300) 0xAA).setCell (Memory.Cell.low 0x400) 0xBB).cell c
        rw [Memory.cell_set_cell, Memory.cell_set_cell, if_neg (Ne.symm unread), if_neg (Ne.symm overwritten)]
  have seen : ∀ c ∈ digitsBack.seenByStep, digitsBack.memory.cell c = litteredDigits.memory.cell c :=
    fun c member => same c (.inl member)
  obtain ⟨_, _, opcodes, _⟩ := oneStep seen
  obtain ⟨answers, agrees, _⟩ := runs digitsRun same
  have plain : digitsBack.answers digitsRun = [.ok [], .ok [], .ok [], .ok [], .ok [], .ok [5]] := by decide +kernel
  have early := agrees [.step, .tick, .step] (by decide)
  exact ⟨agree, seen, same, (opcodes 0xF733 rfl).2, answers.symm.trans plain, early.registers.symm⟩

end Chip8.Machine
