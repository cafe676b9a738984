import Chip8.Proofs.Machine.History
import Chip8.Proofs.Machine.Step

set_option autoImplicit false

namespace Chip8.Machine

def fetchedWord (m : Machine) : Option Word :=
  (m.memory.fetch m.pc).toOption

theorem fetched_word_iff (m : Machine) (word : Word) :
    m.fetchedWord = some word ↔ m.memory.fetch m.pc = .ok word := by
  rw [fetchedWord]
  cases m.memory.fetch m.pc <;> simp [Except.toOption]

theorem fault_payload (m : Machine) (failure : Failure) (faulted : m.step.result = .error failure) :
    ∃ source, failure = .malformedProgram m.pc (m.fetchedWord.getD 0) source := by
  cases m.step_way with
  | unfetched source unfetched =>
      rw [step_unfetched m source unfetched] at faulted
      refine ⟨source, ?_⟩
      simpa [fetchedWord, unfetched, Except.toOption, eq_comm] using faulted
  | refused word source fetched refused =>
      rw [step_refused m word source fetched refused] at faulted
      refine ⟨source, ?_⟩
      simpa [fetchedWord, fetched, Except.toOption, eq_comm] using faulted
  | done word after fetched executed =>
      rw [step_done m after word fetched executed] at faulted
      cases faulted

theorem fault_machine (m : Machine) (failure : Failure) (faulted : m.step.result = .error failure) :
    m.step.machine = { m with lastOpcode := m.fetchedWord.getD m.lastOpcode } := by
  cases m.step_way with
  | unfetched source unfetched =>
      rw [step_unfetched m source unfetched]
      simp [fetchedWord, unfetched, Except.toOption]
  | refused word source fetched refused =>
      rw [step_refused m word source fetched refused]
      simp [fetchedWord, fetched, Except.toOption]
  | done word after fetched executed =>
      rw [step_done m after word fetched executed] at faulted
      cases faulted

-- The last opcode is overwritten before anything could read it, so the second step is the first one again.
theorem step_after_fault (m : Machine) (failure : Failure) (faulted : m.step.result = .error failure) :
    m.step.machine.step = m.step := by
  cases m.step_way with
  | unfetched source unfetched =>
      have left : m.step.machine = m := by rw [step_unfetched m source unfetched]
      rw [left]
  | refused word source fetched refused =>
      have left : m.step.machine = { m with lastOpcode := word } := by
        rw [step_refused m word source fetched refused]
      rw [left, step_refused { m with lastOpcode := word } word source fetched refused,
        step_refused m word source fetched refused]
  | done word after fetched executed =>
      rw [step_done m after word fetched executed] at faulted
      cases faulted

theorem after_faults (m : Machine) (failure : Failure) (faulted : m.step.result = .error failure) (n : Nat) :
    m.after (List.replicate (n + 1) .step) = m.step.machine := by
  induction n generalizing m with
  | zero => rfl
  | succ n ih =>
      have again := step_after_fault m failure faulted
      calc m.after (List.replicate (n + 1 + 1) .step)
          = m.step.machine.after (List.replicate (n + 1) .step) := by
            rw [List.replicate_succ, after_cons]
            rfl
        _ = m.step.machine.step.machine := ih m.step.machine (by rw [again, faulted])
        _ = m.step.machine := by rw [again]

theorem faulting_step_is_atomic_and_repeats (m : Machine) (failure : Failure)
    (faulted : m.step.result = .error failure) :
    (∃ source, failure = .malformedProgram m.pc (m.fetchedWord.getD 0) source) ∧
      m.step.machine = { m with lastOpcode := m.fetchedWord.getD m.lastOpcode } ∧
      ∀ n, m.after (List.replicate (n + 1) .step) = m.step.machine ∧
        (m.after (List.replicate (n + 1) .step)).step.result = .error failure := by
  refine ⟨fault_payload m failure faulted, fault_machine m failure faulted, ?_⟩
  intro n
  have left := after_faults m failure faulted n
  refine ⟨left, ?_⟩
  rw [left, step_after_fault m failure faulted, faulted]

def edgeStore : Machine :=
  { fresh .strict (.ofSeed 0) with memory := ((Memory.fresh .strict).load [0xF1, 0x55]).1, index := 0xEFF }

theorem edge_store_faults_each_time :
    edgeStore.step.result = .error (.malformedProgram 0x200 0xF155 (.outOfRange 0xF00)) ∧
      edgeStore.after (List.replicate 3 .step) = { edgeStore with lastOpcode := 0xF155 } := by
  have faulted : edgeStore.step.result = .error (.malformedProgram 0x200 0xF155 (.outOfRange 0xF00)) := rfl
  obtain ⟨_, left, again⟩ := faulting_step_is_atomic_and_repeats edgeStore _ faulted
  refine ⟨faulted, ?_⟩
  rw [(again 2).1, left]
  rfl

-- Every cause of a fault, in numbers. The first two are faults of the fetch; in the others the word was fetched.
inductive FaultsWith (m : Machine) : Failure → Prop where
  | fetchOutside (strict : m.memory.mode = .strict) (outside : m.pc.toNat < 0x200 ∨ 0xEFF ≤ m.pc.toNat) :
      FaultsWith m (.outOfRange m.pc)
  | fetchOdd (strict : m.memory.mode = .strict) (inside : 0x200 ≤ m.pc.toNat ∧ m.pc.toNat ≤ 0xEFE)
      (odd : m.pc.toNat % 2 = 1) : FaultsWith m (.misalignedFetch m.pc)
  | emptyStack (fetched : m.memory.fetch m.pc = .ok 0x00EE) (empty : m.stack = []) :
      FaultsWith m .stackUnderflow
  | fullStack (word : Word) (fetched : m.memory.fetch m.pc = .ok word) (call : word.toNat / 4096 = 2)
      (full : m.stack.length = 16) : FaultsWith m .stackOverflow
  | read (strict : m.memory.mode = .strict) (word : Word) (fetched : m.memory.fetch m.pc = .ok word)
      (addr : UInt16) (first : Memory.FirstOutside Memory.Readable m.index word.reads addr) :
      FaultsWith m (.outOfRange addr)
  | write (strict : m.memory.mode = .strict) (word : Word) (fetched : m.memory.fetch m.pc = .ok word)
      (addr : UInt16) (first : Memory.FirstOutside Memory.Writable m.index word.writes addr) :
      FaultsWith m (.outOfRange addr)

theorem refuses_decoded_iff (m : Machine) (word : Word) (source : Failure) :
    m.Refuses (Instruction.decode word) source ↔
      word = 0x00EE ∧ m.stack = [] ∧ source = .stackUnderflow ∨
      word.toNat / 4096 = 2 ∧ stackDepth ≤ m.stack.length ∧ source = .stackOverflow ∨
      m.memory.mode = .strict ∧ ∃ addr,
        (Memory.FirstOutside Memory.Readable m.index word.reads addr ∨
          Memory.FirstOutside Memory.Writable m.index word.writes addr) ∧ source = .outOfRange addr := by
  have fits := Instruction.decode_fits word
  rw [Refuses, fits.returns, fits.calls, fits.reads, fits.writes]

theorem fault_source_iff (m : Machine) (source : Failure) :
    (∃ opcode, m.step.result = .error (.malformedProgram m.pc opcode source)) ↔
      m.memory.fetch m.pc = .error source ∨
        ∃ word, m.memory.fetch m.pc = .ok word ∧ m.Refuses (Instruction.decode word) source := by
  cases m.step_way with
  | unfetched actual unfetched =>
      rw [step_unfetched m actual unfetched]
      simp [unfetched]
  | refused word actual fetched refused =>
      have refuses : ∀ other, m.Refuses (Instruction.decode word) other ↔ actual = other := by
        intro other
        have same := execute_error_iff (m.advance word) (Instruction.decode word) other
        rw [refused] at same
        exact same.symm.trans (by simp)
      rw [step_refused m word actual fetched refused]
      simp [fetched, refuses]
  | done word after fetched executed =>
      have accepts : ¬ m.Refuses (Instruction.decode word) source := by
        intro refuses
        have refused := (execute_error_iff (m.advance word) (Instruction.decode word) source).mpr refuses
        rw [executed] at refused
        cases refused
      rw [step_done m after word fetched executed]
      simp [fetched, accepts]

theorem faults_with_iff (m : Machine) (depth : m.stack.length ≤ 16) (source : Failure) :
    (∃ opcode, m.step.result = .error (.malformedProgram m.pc opcode source)) ↔ m.FaultsWith source := by
  rw [fault_source_iff, Memory.fetch_error_iff]
  simp only [refuses_decoded_iff]
  constructor
  · rintro (⟨strict, ⟨outside, rfl⟩ | ⟨inside, odd, rfl⟩⟩ |
      ⟨word, fetched, ⟨rfl, empty, rfl⟩ | ⟨call, full, rfl⟩ | ⟨strict, addr, first | first, rfl⟩⟩)
    · exact .fetchOutside strict outside
    · exact .fetchOdd strict inside odd
    · exact .emptyStack fetched empty
    · exact .fullStack word fetched call (Nat.le_antisymm depth full)
    · exact .read strict word fetched addr first
    · exact .write strict word fetched addr first
  · intro cause
    cases cause with
    | fetchOutside strict outside => exact .inl ⟨strict, .inl ⟨outside, rfl⟩⟩
    | fetchOdd strict inside odd => exact .inl ⟨strict, .inr ⟨inside, odd, rfl⟩⟩
    | emptyStack fetched empty => exact .inr ⟨_, fetched, .inl ⟨rfl, empty, rfl⟩⟩
    | fullStack word fetched call full => exact .inr ⟨word, fetched, .inr (.inl ⟨call, Nat.le_of_eq full.symm, rfl⟩)⟩
    | read strict word fetched addr first => exact .inr ⟨word, fetched, .inr (.inr ⟨strict, addr, .inl first, rfl⟩)⟩
    | write strict word fetched addr first => exact .inr ⟨word, fetched, .inr (.inr ⟨strict, addr, .inr first, rfl⟩)⟩

theorem faults_iff (m : Machine) (depth : m.stack.length ≤ 16) :
    (∃ failure, m.step.result = .error failure) ↔ ∃ source, m.FaultsWith source := by
  constructor
  · rintro ⟨failure, faulted⟩
    obtain ⟨source, rfl⟩ := fault_payload m failure faulted
    exact ⟨source, (faults_with_iff m depth source).mp ⟨_, faulted⟩⟩
  · rintro ⟨source, cause⟩
    obtain ⟨opcode, faulted⟩ := (faults_with_iff m depth source).mpr cause
    exact ⟨_, faulted⟩

theorem lenient_faults (m : Machine) (lenient : m.memory.mode = .lenient) (source : Failure)
    (cause : m.FaultsWith source) : source = .stackUnderflow ∨ source = .stackOverflow := by
  cases cause with
  | emptyStack => exact .inl rfl
  | fullStack => exact .inr rfl
  | _ => simp_all

theorem empty_draw_done (m : Machine) (word : Word) (fetched : m.memory.fetch m.pc = .ok word)
    (draw : word.toNat / 4096 = 0xD) (rows : word.toNat % 16 = 0) : m.step.result = .ok () := by
  have noAccess : word.reads = 0 ∧ word.writes = 0 := by simp [Word.reads, Word.writes, draw, rows]
  have noReturn := Instruction.ne_return word (by simp [draw])
  cases m.step_way with
  | unfetched source unfetched =>
      rw [fetched] at unfetched
      cases unfetched
  | refused other source same refused =>
      cases fetched.symm.trans same
      have refuses := (execute_error_iff (m.advance word) (Instruction.decode word) source).mp refused
      rw [refuses_decoded_iff] at refuses
      simp [noReturn, draw, noAccess, Memory.first_outside_zero] at refuses
  | done other after same executed => rw [step_done m after other same executed]

theorem step_faults_exactly (m : Machine) (depth : m.stack.length ≤ 16) :
    (∀ source, (∃ opcode, m.step.result = .error (.malformedProgram m.pc opcode source)) ↔ m.FaultsWith source) ∧
      ((∃ failure, m.step.result = .error failure) ↔ ∃ source, m.FaultsWith source) ∧
      (m.memory.mode = .lenient →
        ∀ source, m.FaultsWith source → source = .stackUnderflow ∨ source = .stackOverflow) ∧
      (∀ word, m.memory.fetch m.pc = .ok word → word.toNat / 4096 = 0xD → word.toNat % 16 = 0 →
        m.step.result = .ok ()) :=
  ⟨faults_with_iff m depth, faults_iff m depth, lenient_faults m, empty_draw_done m⟩

def edgeDraw : Machine :=
  { fresh .strict (.ofSeed 0) with memory := ((Memory.fresh .strict).load [0xD0, 0x02]).1, index := 0x9F }

theorem edge_draw_faults :
    edgeDraw.stack.length ≤ 16 ∧ Memory.FirstOutside Memory.Readable 0x9F (Word.reads 0xD002) 0xA0 ∧
      ∃ opcode, edgeDraw.step.result = .error (.malformedProgram 0x200 opcode (.outOfRange 0xA0)) := by
  have depth : edgeDraw.stack.length ≤ 16 := Nat.zero_le 16
  have first : Memory.FirstOutside Memory.Readable 0x9F (Word.reads 0xD002) 0xA0 := by
    refine ⟨1, by decide, rfl, by simp [Memory.Readable], ?_⟩
    intro i earlier
    have zero : i = 0 := by omega
    subst zero
    exact .inl (by decide)
  have cause : edgeDraw.FaultsWith (.outOfRange 0xA0) := .read rfl 0xD002 rfl 0xA0 first
  exact ⟨depth, first, ((step_faults_exactly edgeDraw depth).1 _).mpr cause⟩

end Chip8.Machine
