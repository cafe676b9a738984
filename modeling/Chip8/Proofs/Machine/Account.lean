import Chip8.Proofs.Machine.Journal
import Chip8.Proofs.Machine.LogText

set_option autoImplicit false

namespace Chip8.Machine

def linesOfSeverity (severity : Severity) (lines : List LogEntry) : List LogEntry :=
  lines.filter fun line => line.severity = severity

def linesAt (severity : Severity) (lines : List LogEntry) : Nat :=
  lines.countP fun line => line.severity = severity

theorem length_lines_of_severity (severity : Severity) (lines : List LogEntry) :
    (linesOfSeverity severity lines).length = linesAt severity lines :=
  List.countP_eq_length_filter.symm

theorem lines_of_severity_append (severity : Severity) (first second : List LogEntry) :
    linesOfSeverity severity (first ++ second) = linesOfSeverity severity first ++ linesOfSeverity severity second :=
  List.filter_append first second

theorem no_warnings (severity : Severity) (other : severity ≠ .warn) (mode : Mode) (start : UInt16) (count : Nat) :
    linesOfSeverity severity (mode.warnings start count) = [] := by
  rw [linesOfSeverity, Mode.warnings_eq, List.filter_eq_nil_iff]
  intro line member
  obtain ⟨cell, _, rfl⟩ := List.mem_map.mp member
  simp [Memory.Notice.entry, other.symm]

theorem no_memory_lines (severity : Severity) (notWarn : severity ≠ .warn) (notDebug : severity ≠ .debug)
    (m : Memory) (operation : Memory.Operation) : linesOfSeverity severity (m.linesOf operation) = [] := by
  have load (loaded : Except Failure Unit) (length : Nat) :
      linesOfSeverity severity (Memory.loadLines loaded length) = [] := by
    cases loaded <;> simp [linesOfSeverity, Memory.loadLines, notDebug.symm]
  cases operation with
  | load program => exact load _ _
  | loadFrom deliveries => exact load _ _
  | writeByte addr byte => exact no_warnings severity notWarn m.mode addr 1
  | write start data => exact no_warnings severity notWarn m.mode start data.length
  | reset => rfl

def StepTaken.succeeds (taken : StepTaken) : Bool :=
  taken.result.isOk

def StepTaken.faults (taken : StepTaken) : Bool :=
  !taken.result.isOk

-- The word is there, but its instruction is refused.
def StepTaken.faultsOnWord (taken : StepTaken) : Bool :=
  taken.word.isSome && !taken.result.isOk

def StepTaken.announcements (taken : StepTaken) : List Announcement :=
  taken.word.toList.map fun word => ⟨taken.pc, word, some (Instruction.decode word)⟩

def reportsOf (m : Machine) : Operation → List Report
  | .step =>
      match m.step.result with
      | .error (.malformedProgram _ _ source) => [⟨m.pc, source, { m.step.machine with pc := m.pc }⟩]
      | _ => []
  | _ => []

def reports (m : Machine) : List Operation → List Report
  | [] => []
  | operation :: rest => m.reportsOf operation ++ (m.perform operation).machine.reports rest

def announcing (taken : StepTaken) : List LogEntry :=
  taken.word.toList.map fun word => (Record.executing taken.pc word).entry

theorem word_lines_of_severity (m : Machine) (word : Word) :
    linesOfSeverity .trace (m.wordLines word) = [(Record.executing m.pc word).entry] ∧
      linesOfSeverity .error (m.wordLines word) = [] := by
  have dropped (severity : Severity) (other : severity ≠ .warn) :
      linesOfSeverity severity (m.memory.mode.warnings m.index word.writes) = [] :=
    no_warnings severity other _ _ _
  rw [wordLines]
  simp only [lines_of_severity_append, dropped .trace (by decide), dropped .error (by decide)]
  by_cases unknown : Instruction.decode word = .unknown word
  · rw [if_pos unknown]
    exact ⟨rfl, rfl⟩
  · rw [if_neg unknown]
    exact ⟨rfl, rfl⟩

theorem step_lines_of_severity (m : Machine) :
    linesOfSeverity .trace (m.linesOf .step) = (m.stepOf .step).flatMap announcing ∧
      linesOfSeverity .error (m.linesOf .step) = (m.reportsOf .step).map Report.entry := by
  cases m.step_way with
  | unfetched source unfetched =>
      have silent : m.fetchedWord = none := by
        rw [fetchedWord, unfetched]
        rfl
      rw [lines_unfetched m source unfetched, stepOf, reportsOf, step_unfetched m source unfetched, silent]
      exact ⟨rfl, rfl⟩
  | refused word source fetched refused =>
      have spoken : m.fetchedWord = some word := (fetched_word_iff m word).mpr fetched
      obtain ⟨announced, unfaulted⟩ := word_lines_of_severity m word
      rw [lines_refused m word source fetched refused, stepOf, reportsOf, step_refused m word source fetched refused,
        spoken, lines_of_severity_append, lines_of_severity_append, announced, unfaulted]
      exact ⟨rfl, rfl⟩
  | done word after fetched executed =>
      have spoken : m.fetchedWord = some word := (fetched_word_iff m word).mpr fetched
      obtain ⟨announced, unfaulted⟩ := word_lines_of_severity m word
      rw [lines_done m after word fetched executed, stepOf, reportsOf, step_done m after word fetched executed, spoken,
        announced, unfaulted]
      exact ⟨rfl, rfl⟩

theorem operation_lines_of_severity (m : Machine) (operation : Operation) :
    linesOfSeverity .trace (m.linesOf operation) = (m.stepOf operation).flatMap announcing ∧
      linesOfSeverity .error (m.linesOf operation) = (m.reportsOf operation).map Report.entry := by
  cases operation with
  | step => exact step_lines_of_severity m
  | memory operation =>
      exact ⟨no_memory_lines .trace (by decide) (by decide) m.memory operation,
        no_memory_lines .error (by decide) (by decide) m.memory operation⟩
  | _ => exact ⟨rfl, rfl⟩

theorem account_lines_of_severity (m : Machine) (history : List Operation) :
    linesOfSeverity .trace (m.account history) = (m.stepsTaken history).flatMap announcing ∧
      linesOfSeverity .error (m.account history) = (m.reports history).map Report.entry := by
  induction history generalizing m with
  | nil => exact ⟨rfl, rfl⟩
  | cons operation rest ih =>
      obtain ⟨traces, errors⟩ := operation_lines_of_severity m operation
      obtain ⟨laterTraces, laterErrors⟩ := ih (m.perform operation).machine
      rw [account, stepsTaken, reports, lines_of_severity_append, lines_of_severity_append, List.flatMap_append,
        List.map_append, traces, errors, laterTraces, laterErrors]
      exact ⟨rfl, rfl⟩

-- A step without a word faults, so a step that announces itself succeeds or faults on its word.
theorem step_counts (m : Machine) (operation : Operation) :
    ((m.stepOf operation).flatMap announcing).length =
        (m.stepOf operation).countP StepTaken.succeeds + (m.stepOf operation).countP StepTaken.faultsOnWord ∧
      (m.reportsOf operation).length = (m.stepOf operation).countP StepTaken.faults := by
  cases operation with
  | step =>
      cases m.step_way with
      | unfetched source unfetched =>
          have silent : m.fetchedWord = none := by
            rw [fetchedWord, unfetched]
            rfl
          rw [stepOf, reportsOf, step_unfetched m source unfetched, silent]
          exact ⟨rfl, rfl⟩
      | refused word source fetched refused =>
          have spoken : m.fetchedWord = some word := (fetched_word_iff m word).mpr fetched
          rw [stepOf, reportsOf, step_refused m word source fetched refused, spoken]
          exact ⟨rfl, rfl⟩
      | done word after fetched executed =>
          have spoken : m.fetchedWord = some word := (fetched_word_iff m word).mpr fetched
          rw [stepOf, reportsOf, step_done m after word fetched executed, spoken]
          exact ⟨rfl, rfl⟩
  | _ => exact ⟨rfl, rfl⟩

theorem run_counts (m : Machine) (history : List Operation) :
    ((m.stepsTaken history).flatMap announcing).length =
        (m.stepsTaken history).countP StepTaken.succeeds + (m.stepsTaken history).countP StepTaken.faultsOnWord ∧
      (m.reports history).length = (m.stepsTaken history).countP StepTaken.faults := by
  induction history generalizing m with
  | nil => exact ⟨rfl, rfl⟩
  | cons operation rest ih =>
      obtain ⟨announced, reported⟩ := step_counts m operation
      obtain ⟨laterAnnounced, laterReported⟩ := ih (m.perform operation).machine
      rw [stepsTaken, reports, List.flatMap_append, List.length_append, List.length_append, List.countP_append,
        List.countP_append, List.countP_append]
      omega

theorem read_announcing (taken : StepTaken) :
    (announcing taken).map (fun line => readAnnouncement line.text.toList) = taken.announcements := by
  rw [announcing, StepTaken.announcements, List.map_map]
  apply List.map_congr_left
  intro word _
  exact read_executing taken.pc word

theorem report_told (m : Machine) (operation : Operation) (report : Report) (member : report ∈ m.reportsOf operation) :
    report.ToldBy report.entry.text.toList := by
  cases operation with
  | step =>
      rw [reportsOf] at member
      split at member
      · rename_i pc opcode source faulted
        obtain ⟨_, same⟩ := fault_payload m _ faulted
        obtain ⟨rfl, _⟩ := Failure.malformedProgram.inj same
        obtain ⟨unbroken, plain⟩ := fault_source_plain m opcode source faulted
        obtain rfl := List.mem_singleton.mp member
        exact Report.told_by_entry _ unbroken plain
      · exact absurd member List.not_mem_nil
  | _ => exact absurd member List.not_mem_nil

theorem reports_told (m : Machine) (history : List Operation) :
    List.Forall₂ (fun report line => report.ToldBy line.text.toList) (m.reports history)
      ((m.reports history).map Report.entry) := by
  have told : ∀ report ∈ m.reports history, report.ToldBy report.entry.text.toList := by
    induction history generalizing m with
    | nil => exact fun report member => absurd member List.not_mem_nil
    | cons operation rest ih =>
        intro report member
        rcases List.mem_append.mp member with here | later
        · exact report_told m operation report here
        · exact ih (m.perform operation).machine report later
  rw [List.forall₂_map_right_iff, List.forall₂_same]
  exact told

theorem log_accounts_for_the_run (m : Machine) (history : List Operation) (limit : Severity) :
    let full := m.runJournaled (.empty .trace) history
    let kept := m.runJournaled (.empty limit) history
    (full.machine = m.after history ∧ full.answers = m.answers history ∧
        full.journal.lines = m.account history ∧ m.account history = (m.recorded history).map Record.entry) ∧
      (kept.machine = full.machine ∧ kept.answers = full.answers ∧
        kept.journal.lines = full.journal.lines.filter fun line => line.severity.rank ≤ limit.rank) ∧
      linesAt .trace full.journal.lines =
        (m.stepsTaken history).countP StepTaken.succeeds + (m.stepsTaken history).countP StepTaken.faultsOnWord ∧
      linesAt .error full.journal.lines = (m.stepsTaken history).countP StepTaken.faults ∧
      (linesOfSeverity .trace full.journal.lines).map (fun line => readAnnouncement line.text.toList) =
        (m.stepsTaken history).flatMap StepTaken.announcements ∧
      List.Forall₂ (fun report line => report.ToldBy line.text.toList) (m.reports history)
        (linesOfSeverity .error full.journal.lines) := by
  intro full kept
  have fullRun : full = ⟨m.after history, _, m.answers history⟩ := run_journaled m (.empty .trace) history
  have keptRun : kept = ⟨m.after history, _, m.answers history⟩ := run_journaled m (.empty limit) history
  have lines : full.journal.lines = m.account history :=
    (run_lines m history .trace).trans (report_trace (m.account history))
  obtain ⟨traces, errors⟩ := account_lines_of_severity m history
  obtain ⟨announced, reported⟩ := run_counts m history
  refine ⟨⟨?_, ?_, lines, (recorded_entries m history).symm⟩, ⟨?_, ?_, ?_⟩, ?_, ?_, ?_, ?_⟩
  · rw [fullRun]
  · rw [fullRun]
  · rw [keptRun, fullRun]
  · rw [keptRun, fullRun]
  · rw [lines]
    exact run_lines m history limit
  · rw [lines, ← length_lines_of_severity, traces, announced]
  · rw [lines, ← length_lines_of_severity, errors, List.length_map, reported]
  · rw [lines, traces, List.map_flatMap]
    simp only [read_announcing]
  · rw [lines, errors]
    exact reports_told m history

end Chip8.Machine
