import Chip8.Proofs.Machine.StepsTaken
import Chip8.Proofs.Memory.Journal

set_option autoImplicit false

namespace Chip8.Machine

def storeJournaled (m : Machine) (journal : Journal) (bytes : List UInt8) : Journaled Machine Unit :=
  let stored := m.memory.writeJournaled journal m.index bytes
  ⟨{ m with memory := stored.left }, stored.journal, stored.answer⟩

-- Three instructions say something; the others execute as they do without a log.
def executeJournaled (m : Machine) (journal : Journal) (instruction : Instruction) : Journaled Machine Unit :=
  match instruction with
  | .storeBcd x => m.storeJournaled journal (decimalDigits (m.register x))
  | .storeRegs x => m.storeJournaled journal (m.registers.toList.take (x.val + 1))
  | .unknown word => ⟨m, journal.write (Record.unknownOpcode word).entry, .ok ()⟩
  | silent => ⟨(execute m silent).1, journal, (execute m silent).2⟩

def stepJournaled (m : Machine) (journal : Journal) : Journaled Machine Unit :=
  match m.memory.fetch m.pc with
  | .error source => ⟨m, journal.write (Record.fault m.pc source m).entry, .error (.malformedProgram m.pc 0 source)⟩
  | .ok word =>
      let announced := journal.write (Record.executing m.pc word).entry
      match executeJournaled (m.advance word) announced (Instruction.decode word) with
      | ⟨left, written, .error source⟩ =>
          let restored := { left with pc := m.pc }
          ⟨restored, written.write (Record.fault m.pc source restored).entry,
            .error (.malformedProgram m.pc word source)⟩
      | ⟨left, written, .ok _⟩ => ⟨left, written, .ok ()⟩

def changeMemoryJournaled (m : Machine) (journal : Journal) (operation : Memory.Operation) :
    Journaled Machine (List UInt8) :=
  let changed := m.memory.performJournaled journal operation
  ⟨{ m with memory := changed.left }, changed.journal, changed.answer.map fun _ => []⟩

def performJournaled (m : Machine) (journal : Journal) : Operation → Journaled Machine (List UInt8)
  | .step =>
      let stepped := m.stepJournaled journal
      ⟨stepped.left, stepped.journal, stepped.answer.map fun _ => []⟩
  | .tick => ⟨m.tick, journal, .ok []⟩
  | .key key down => ⟨m.setKey key down, journal, .ok []⟩
  | .releaseKeys => ⟨m.releaseKeys, journal, .ok []⟩
  | .reset => ⟨m.reset, journal.write Record.wasReset.entry, .ok []⟩
  | .memory operation => m.changeMemoryJournaled journal operation
  | .read start count => ⟨m, journal, m.memory.read start count⟩

structure JournaledRun where
  machine : Machine
  journal : Journal
  answers : List (Except Failure (List UInt8))

def runJournaled (m : Machine) (journal : Journal) : List Operation → JournaledRun
  | [] => ⟨m, journal, []⟩
  | operation :: rest =>
      let performed := m.performJournaled journal operation
      let later := performed.left.runJournaled performed.journal rest
      ⟨later.machine, later.journal, performed.answer :: later.answers⟩

-- What a word says once it is fetched: itself, then the writes that its instruction drops, then that it is unknown.
def wordLines (m : Machine) (word : Word) : List LogEntry :=
  [⟨.trace, Text.lowerHex 4 m.pc.toNat ++ ": " ++ word.text ++ " " ++ (Instruction.decode word).text⟩] ++
    m.memory.mode.warnings m.index word.writes ++
    if Instruction.decode word = .unknown word then
      [⟨.debug, "ignoring unknown opcode " ++ Text.lowerHex 4 word.toNat⟩]
    else []

-- What a fault says: the dump shows the program counter of before the step, and the rest as the step leaves it.
def faultLines (m : Machine) : List LogEntry :=
  match m.step.result with
  | .error (.malformedProgram _ _ source) =>
      [⟨.error, "fault at 0x" ++ Text.lowerHex 4 m.pc.toNat ++ ": " ++ source.message ++ "\n" ++
        coreDump { m.step.machine with pc := m.pc }⟩]
  | _ => []

def linesOf (m : Machine) : Operation → List LogEntry
  | .step => m.fetchedWord.toList.flatMap m.wordLines ++ m.faultLines
  | .reset => [⟨.debug, "interpreter reset"⟩]
  | .memory operation => m.memory.linesOf operation
  | _ => []

def account (m : Machine) : List Operation → List LogEntry
  | [] => []
  | operation :: rest => m.linesOf operation ++ (m.perform operation).machine.account rest

def remarks : Instruction → List LogEntry
  | .unknown word => [(Record.unknownOpcode word).entry]
  | _ => []

def instructionLines (m : Machine) (instruction : Instruction) : List LogEntry :=
  m.memory.mode.warnings m.index instruction.writes ++ remarks instruction

theorem store_journaled (m : Machine) (journal : Journal) (bytes : List UInt8) :
    m.storeJournaled journal bytes =
      ⟨(m.store bytes).1, journal.writeAll (m.memory.mode.warnings m.index bytes.length), (m.store bytes).2⟩ := by
  rw [storeJournaled, Memory.write_journaled]
  rfl

theorem silent_lines (m : Machine) (instruction : Instruction) (writes : instruction.writes = 0)
    (known : remarks instruction = []) : m.instructionLines instruction = [] := by
  rw [instructionLines, writes, known, Mode.warnings_zero]
  rfl

theorem execute_journaled (m : Machine) (journal : Journal) (instruction : Instruction) :
    m.executeJournaled journal instruction =
      ⟨(execute m instruction).1, journal.writeAll (m.instructionLines instruction), (execute m instruction).2⟩ := by
  cases instruction with
  | storeBcd x =>
      have lines : m.instructionLines (.storeBcd x) = m.memory.mode.warnings m.index 3 := List.append_nil _
      rw [lines]
      exact store_journaled m journal (decimalDigits (m.register x))
  | storeRegs x =>
      have lines : m.instructionLines (.storeRegs x) = m.memory.mode.warnings m.index (x.val + 1) := List.append_nil _
      rw [lines, ← length_stored m x]
      exact store_journaled m journal (m.registers.toList.take (x.val + 1))
  | unknown word =>
      have lines : m.instructionLines (.unknown word) = remarks (.unknown word) := by
        change m.memory.mode.warnings m.index 0 ++ _ = _
        rw [Mode.warnings_zero]
        rfl
      rw [lines]
      rfl
  | _ =>
      rw [silent_lines m _ rfl rfl]
      rfl

theorem refused_lines (m : Machine) (instruction : Instruction) (failure : Failure)
    (refused : (execute m instruction).2 = .error failure) : m.instructionLines instruction = [] := by
  rcases (execute_error_iff m instruction failure).mp refused with
    ⟨rfl, _⟩ | ⟨⟨nnn, rfl⟩, _⟩ | ⟨strict, addr, outside, _⟩
  · exact silent_lines m .ret rfl rfl
  · exact silent_lines m (.call nnn) rfl rfl
  · have known : remarks instruction = [] := by
      cases instruction with
      | unknown word => cases refused
      | _ => rfl
    rw [instructionLines, strict, known]
    rfl

theorem decode_unknown (word other : Word) (unknown : Instruction.decode word = .unknown other) : other = word := by
  cases (Instruction.decode_eq_iff word _).mp unknown <;> rfl

theorem decoded_remarks (word : Word) :
    remarks (Instruction.decode word) =
      if Instruction.decode word = .unknown word then
        [⟨.debug, "ignoring unknown opcode " ++ Text.lowerHex 4 word.toNat⟩]
      else [] := by
  by_cases unknown : Instruction.decode word = .unknown word
  · rw [if_pos unknown, unknown]
    rfl
  · rw [if_neg unknown]
    cases decoded : Instruction.decode word with
    | unknown other =>
        rw [decode_unknown word other decoded] at decoded
        exact absurd decoded unknown
    | _ => rfl

theorem word_lines_eq (m : Machine) (word : Word) :
    m.wordLines word =
      (Record.executing m.pc word).entry :: (m.advance word).instructionLines (Instruction.decode word) := by
  rw [wordLines, instructionLines, (Instruction.decode_fits word).writes, decoded_remarks, List.append_assoc]
  rfl

theorem lines_unfetched (m : Machine) (source : Failure) (unfetched : m.memory.fetch m.pc = .error source) :
    m.linesOf .step = [(Record.fault m.pc source m).entry] := by
  have silent : m.fetchedWord = none := by rw [fetchedWord, unfetched]; rfl
  rw [linesOf, faultLines, step_unfetched m source unfetched, silent]
  rfl

theorem lines_refused (m : Machine) (word : Word) (source : Failure) (fetched : m.memory.fetch m.pc = .ok word)
    (refused : (execute (m.advance word) (Instruction.decode word)).2 = .error source) :
    m.linesOf .step = m.wordLines word ++ [(Record.fault m.pc source { m with lastOpcode := word }).entry] := by
  have spoken : m.fetchedWord = some word := (fetched_word_iff m word).mpr fetched
  rw [linesOf, faultLines, step_refused m word source fetched refused, spoken, Option.toList, List.flatMap_singleton]
  rfl

theorem lines_done (m after : Machine) (word : Word) (fetched : m.memory.fetch m.pc = .ok word)
    (executed : execute (m.advance word) (Instruction.decode word) = (after, .ok ())) :
    m.linesOf .step = m.wordLines word := by
  have spoken : m.fetchedWord = some word := (fetched_word_iff m word).mpr fetched
  rw [linesOf, faultLines, step_done m after word fetched executed, spoken, Option.toList, List.flatMap_singleton,
    List.append_nil]

theorem step_journaled (m : Machine) (journal : Journal) :
    m.stepJournaled journal = ⟨m.step.machine, journal.writeAll (m.linesOf .step), m.step.result⟩ := by
  cases m.step_way with
  | unfetched source unfetched =>
      rw [stepJournaled, lines_unfetched m source unfetched, step_unfetched m source unfetched, unfetched]
      rfl
  | refused word source fetched refused =>
      have nothing := refused_lines (m.advance word) (Instruction.decode word) source refused
      have unchanged := execute_refused (m.advance word) (Instruction.decode word) source refused
      rw [stepJournaled, lines_refused m word source fetched refused, step_refused m word source fetched refused]
      simp only [fetched, execute_journaled, nothing, refused, unchanged, word_lines_eq]
      rfl
  | done word after fetched executed =>
      rw [stepJournaled, lines_done m after word fetched executed, step_done m after word fetched executed]
      simp only [fetched, execute_journaled, executed, word_lines_eq]
      rfl

theorem perform_journaled (m : Machine) (journal : Journal) (operation : Operation) :
    m.performJournaled journal operation =
      ⟨(m.perform operation).machine, journal.writeAll (m.linesOf operation), (m.perform operation).result⟩ := by
  cases operation with
  | step =>
      rw [performJournaled, step_journaled]
      rfl
  | memory operation =>
      change m.changeMemoryJournaled journal operation = _
      rw [changeMemoryJournaled, Memory.perform_journaled]
      change _ = Journaled.mk (m.changeMemory operation).machine _ (m.changeMemory operation).result
      rw [changeMemory]
      cases m.memory.perform operation with
      | mk memory performed => cases performed <;> rfl
  | _ => rfl

theorem run_journaled (m : Machine) (journal : Journal) (history : List Operation) :
    m.runJournaled journal history = ⟨m.after history, journal.writeAll (m.account history), m.answers history⟩ := by
  induction history generalizing m journal with
  | nil => rfl
  | cons operation rest ih =>
      rw [runJournaled, perform_journaled]
      simp only [ih, Journal.write_all_append]
      rfl

theorem instruction_records_entries (m : Machine) (instruction : Instruction) :
    (m.instructionRecords instruction).map Record.entry = m.instructionLines instruction := by
  cases instruction with
  | storeBcd x =>
      rw [instructionRecords, List.map_map, instructionLines, Mode.warnings_eq]
      exact (List.append_nil _).symm
  | storeRegs x =>
      rw [instructionRecords, List.map_map, instructionLines, Mode.warnings_eq]
      exact (List.append_nil _).symm
  | unknown word =>
      change _ = m.memory.mode.warnings m.index 0 ++ _
      rw [Mode.warnings_zero]
      rfl
  | _ => exact (silent_lines m _ rfl rfl).symm

theorem step_entries (m : Machine) : m.step.records.map Record.entry = m.linesOf .step := by
  cases m.step_way with
  | unfetched source unfetched =>
      rw [lines_unfetched m source unfetched, step_unfetched m source unfetched]
      rfl
  | refused word source fetched refused =>
      have nothing := refused_lines (m.advance word) (Instruction.decode word) source refused
      rw [lines_refused m word source fetched refused, step_refused m word source fetched refused, word_lines_eq,
        nothing]
      rfl
  | done word after fetched executed =>
      have records := instruction_records_entries m (Instruction.decode word)
      rw [lines_done m after word fetched executed, step_done m after word fetched executed, word_lines_eq,
        List.map_cons, records]
      rfl

theorem perform_entries (m : Machine) (operation : Operation) :
    (m.perform operation).records.map Record.entry = m.linesOf operation := by
  cases operation with
  | step => exact step_entries m
  | memory operation =>
      change (m.changeMemory operation).records.map Record.entry = m.memory.linesOf operation
      rw [← Memory.notices_eq, changeMemory]
      cases m.memory.perform operation with
      | mk memory performed =>
          cases performed with
          | error failure => rfl
          | ok notices => exact List.map_map
  | _ => rfl

def recorded (m : Machine) : List Operation → List Record
  | [] => []
  | operation :: rest => (m.perform operation).records ++ (m.perform operation).machine.recorded rest

theorem recorded_entries (m : Machine) (history : List Operation) :
    (m.recorded history).map Record.entry = m.account history := by
  induction history generalizing m with
  | nil => rfl
  | cons operation rest ih => rw [recorded, account, List.map_append, perform_entries, ih]

theorem report_trace (entries : List LogEntry) : LogEntry.report .trace entries = entries := by
  rw [LogEntry.report, List.filter_eq_self]
  intro entry _
  cases entry.severity <;> rfl

theorem run_lines (m : Machine) (history : List Operation) (limit : Severity) :
    (m.runJournaled (.empty limit) history).journal.lines = LogEntry.report limit (m.account history) := by
  rw [run_journaled, Journal.write_all_eq]
  exact List.nil_append _

end Chip8.Machine
