import Chip8.Machine.Operation
import Chip8.Proofs.Machine.Step
import Chip8.Proofs.Memory.Lenient

set_option autoImplicit false

namespace Chip8.Machine

def lenient (m : Machine) : Machine :=
  { m with memory := m.memory.lenient }

theorem skip_if_lenient (m : Machine) (condition : Bool) :
    m.lenient.skipIf condition = (m.skipIf condition).lenient := by
  cases condition <;> rfl

theorem store_written (m after : Machine) (bytes : List UInt8) (stored : m.store bytes = (after, .ok ())) :
    ∃ memory, m.memory.write m.index bytes = (memory, .ok ()) ∧ after = { m with memory := memory } := by
  obtain ⟨left, result⟩ := Prod.mk.inj stored
  exact ⟨_, Prod.ext rfl result, left.symm⟩

theorem store_lenient (m after : Machine) (bytes : List UInt8) (stored : m.store bytes = (after, .ok ())) :
    m.lenient.store bytes = (after.lenient, .ok ()) := by
  obtain ⟨memory, written, rfl⟩ := store_written m after bytes stored
  have same : m.lenient.memory.write m.lenient.index bytes = (memory.lenient, .ok ()) :=
    Memory.write_lenient m.memory memory m.index bytes written
  rw [store, same]
  rfl

theorem store_drops_lenient (m after : Machine) (bytes : List UInt8) (stored : m.store bytes = (after, .ok ())) :
    m.lenient.memory.mode.droppedCells m.index bytes.length = m.memory.mode.droppedCells m.index bytes.length := by
  obtain ⟨memory, written, rfl⟩ := store_written m after bytes stored
  exact Memory.write_drops_lenient m.memory memory m.index bytes written

theorem execute_lenient (m after : Machine) (instruction : Instruction)
    (executed : execute m instruction = (after, .ok ())) :
    execute m.lenient instruction = (after.lenient, .ok ()) := by
  cases instruction with
  | ret =>
      revert executed
      simp only [execute]
      cases stack : m.stack with
      | nil => simp
      | cons newest older =>
          have same : m.lenient.stack = newest :: older := stack
          rw [same]
          rintro ⟨⟩
          rfl
  | call nnn =>
      revert executed
      by_cases room : m.stack.length < stackDepth
      · have same : m.lenient.stack.length < stackDepth := room
        simp only [execute, if_pos room, if_pos same]
        rintro ⟨⟩
        rfl
      · simp [execute, if_neg room]
  | draw x y n =>
      revert executed
      simp only [execute]
      cases taken : m.memory.read m.index n.val with
      | error failure => simp
      | ok rows =>
          have same : m.lenient.memory.read m.lenient.index n.val = .ok rows :=
            Memory.read_lenient m.memory m.index n.val rows taken
          rw [same]
          rintro ⟨⟩
          rfl
  | loadRegs x =>
      revert executed
      simp only [execute]
      cases taken : m.memory.read m.index (x.val + 1) with
      | error failure => simp
      | ok bytes =>
          have same : m.lenient.memory.read m.lenient.index (x.val + 1) = .ok bytes :=
            Memory.read_lenient m.memory m.index (x.val + 1) bytes taken
          rw [same]
          rintro ⟨⟩
          rfl
  | storeBcd x => exact store_lenient m after _ executed
  | storeRegs x => exact store_lenient m after _ executed
  | waitKey x =>
      revert executed
      simp only [execute]
      cases key : m.keypad.first with
      | none =>
          have same : m.lenient.keypad.first = none := key
          rw [same]
          rintro ⟨⟩
          rfl
      | some down =>
          have same : m.lenient.keypad.first = some down := key
          rw [same]
          rintro ⟨⟩
          rfl
  | skipEqImm | skipNeImm | skipEqReg | skipNeReg | skipKeyDown | skipKeyUp =>
      cases executed
      exact congrArg done (skip_if_lenient m _)
  | _ =>
      cases executed
      rfl

theorem instruction_records_lenient (m after : Machine) (instruction : Instruction)
    (executed : execute m instruction = (after, .ok ())) :
    m.lenient.instructionRecords instruction = m.instructionRecords instruction := by
  cases instruction with
  | storeBcd x => exact congrArg (List.map _) (store_drops_lenient m after _ executed)
  | storeRegs x =>
      have same := store_drops_lenient m after _ executed
      rw [length_stored] at same
      exact congrArg (List.map _) same
  | _ => rfl

theorem step_lenient (m : Machine) (stepped : m.step.result = .ok ()) :
    m.lenient.step = ⟨.ok (), m.step.machine.lenient, m.step.records⟩ := by
  cases m.step_way with
  | unfetched source unfetched =>
      rw [step_unfetched m source unfetched] at stepped
      cases stepped
  | refused word source fetched refused =>
      rw [step_refused m word source fetched refused] at stepped
      cases stepped
  | done word after fetched executed =>
      have sameFetch : m.lenient.memory.fetch m.lenient.pc = .ok word :=
        Memory.fetch_lenient m.memory m.pc word fetched
      have sameExecution := execute_lenient (m.advance word) after (Instruction.decode word) executed
      have sameRecords := instruction_records_lenient (m.advance word) after (Instruction.decode word) executed
      rw [step_done m after word fetched executed, step_done m.lenient after.lenient word sameFetch sameExecution]
      exact congrArg (fun records => Outcome.mk _ _ (.executing m.pc word :: records)) sameRecords

theorem perform_lenient (m after : Machine) (operation : Operation) (bytes : List UInt8) (records : List Record)
    (performed : m.perform operation = ⟨.ok bytes, after, records⟩) :
    m.lenient.perform operation = ⟨.ok bytes, after.lenient, records⟩ := by
  cases operation with
  | step =>
      revert performed
      simp only [perform, Outcome.map]
      cases result : m.step.result with
      | error failure => simp [Except.map]
      | ok =>
          rw [step_lenient m result]
          rintro ⟨⟩
          rfl
  | memory operation =>
      revert performed
      simp only [perform, changeMemory]
      cases changed : m.memory.perform operation with
      | mk memory result =>
          cases result with
          | error failure => simp
          | ok notices =>
              have same : m.lenient.memory.perform operation = (memory.lenient, .ok notices) :=
                Memory.perform_lenient m.memory memory operation notices changed
              rw [same]
              rintro ⟨⟩
              rfl
  | read start count =>
      revert performed
      simp only [perform]
      cases taken : m.memory.read start count with
      | error failure => simp
      | ok found =>
          have same : m.lenient.memory.read start count = .ok found :=
            Memory.read_lenient m.memory start count found taken
          rw [same]
          rintro ⟨⟩
          rfl
  | _ =>
      cases performed
      rfl

theorem at_program_end_lenient (m : Machine) (ended : m.atProgramEnd = true) : m.lenient.atProgramEnd = true := by
  revert ended
  simp only [atProgramEnd]
  cases fetched : m.memory.fetch m.pc with
  | error failure => simp
  | ok word =>
      have same : m.lenient.memory.fetch m.lenient.pc = .ok word := Memory.fetch_lenient m.memory m.pc word fetched
      rw [same]
      exact id

-- The lenient machine sees an end also where the machine cannot fetch, but there the machine does not step.
theorem at_program_end_of_stepped (m : Machine) (stepped : m.step.result = .ok ()) :
    m.lenient.atProgramEnd = m.atProgramEnd := by
  cases fetched : m.memory.fetch m.pc with
  | error source =>
      rw [step_unfetched m source fetched] at stepped
      cases stepped
  | ok word =>
      have same : m.lenient.memory.fetch m.lenient.pc = .ok word := Memory.fetch_lenient m.memory m.pc word fetched
      rw [atProgramEnd, atProgramEnd, same, fetched]

def transcript (m : Machine) : List Operation → Except Failure (List (List UInt8 × Machine))
  | [] => .ok []
  | operation :: rest =>
      let outcome := m.perform operation
      match outcome.result with
      | .error failure => .error failure
      | .ok bytes => (outcome.machine.transcript rest).map ((bytes, outcome.machine) :: ·)

theorem transcript_lenient (m : Machine) (history : List Operation) (observed : List (List UInt8 × Machine))
    (performed : m.transcript history = .ok observed) :
    m.lenient.transcript history = .ok (observed.map fun seen => (seen.1, seen.2.lenient)) := by
  induction history generalizing m observed with
  | nil =>
      cases performed
      rfl
  | cons operation rest ih =>
      revert performed
      simp only [transcript]
      cases outcome : m.perform operation with
      | mk result after records =>
          cases result with
          | error failure => simp
          | ok bytes =>
              rw [perform_lenient m after operation bytes records outcome]
              cases remaining : after.transcript rest with
              | error failure => simp [Except.map]
              | ok others =>
                  simp only [ih after others remaining]
                  rintro ⟨⟩
                  rfl

end Chip8.Machine
