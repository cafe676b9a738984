import Chip8.Proofs.Memory.Access
import Chip8.Memory.Operation

set_option autoImplicit false

namespace Chip8

structure Journal where
  limit : Severity
  lines : List LogEntry

namespace Journal

def empty (limit : Severity) : Journal :=
  ⟨limit, []⟩

def write (journal : Journal) (entry : LogEntry) : Journal :=
  if entry.severity.rank ≤ journal.limit.rank then { journal with lines := journal.lines ++ [entry] } else journal

def writeAll (journal : Journal) (entries : List LogEntry) : Journal :=
  entries.foldl write journal

theorem write_all_append (journal : Journal) (first second : List LogEntry) :
    (journal.writeAll first).writeAll second = journal.writeAll (first ++ second) :=
  List.foldl_append.symm

theorem write_all_eq (journal : Journal) (entries : List LogEntry) :
    journal.writeAll entries = ⟨journal.limit, journal.lines ++ LogEntry.report journal.limit entries⟩ := by
  induction entries generalizing journal with
  | nil =>
      change journal = ⟨journal.limit, journal.lines ++ []⟩
      rw [List.append_nil]
  | cons entry rest ih =>
      change (journal.write entry).writeAll rest = _
      rw [ih, write]
      by_cases severe : entry.severity.rank ≤ journal.limit.rank <;> simp [severe, LogEntry.report]

end Journal

structure Journaled (σ α : Type) where
  left : σ
  journal : Journal
  answer : Except Failure α

def Mode.aim (mode : Mode) (journal : Journal) (addr : UInt16) : Journal × Except Failure (Option Memory.Cell) :=
  match mode with
  | .lenient =>
      let cell := Memory.cellAt addr
      if Memory.InGlyphs cell.val then (journal.write (Memory.Notice.dropped cell).entry, .ok none)
      else (journal, .ok (some cell))
  | .strict => (journal, Mode.strict.writeCell addr)

def Mode.aimAll (mode : Mode) (journal : Journal) : List UInt16 → Journal × Except Failure (List (Option Memory.Cell))
  | [] => (journal, .ok [])
  | addr :: rest =>
      match mode.aim journal addr with
      | (journal, .error failure) => (journal, .error failure)
      | (journal, .ok target) =>
          match mode.aimAll journal rest with
          | (journal, .error failure) => (journal, .error failure)
          | (journal, .ok targets) => (journal, .ok (target :: targets))

namespace Memory

def writeByteJournaled (m : Memory) (journal : Journal) (addr : UInt16) (byte : UInt8) : Journaled Memory Unit :=
  match m.mode.aim journal addr with
  | (journal, .error failure) => ⟨m, journal, .error failure⟩
  | (journal, .ok target) => ⟨m.storeAll [(target, byte)], journal, .ok ()⟩

def writeJournaled (m : Memory) (journal : Journal) (start : UInt16) (data : List UInt8) : Journaled Memory Unit :=
  match m.mode.aimAll journal (addresses start data.length) with
  | (journal, .error failure) => ⟨m, journal, .error failure⟩
  | (journal, .ok targets) => ⟨m.storeAll (targets.zip data), journal, .ok ()⟩

def loadJournaled (m : Memory) (journal : Journal) (program : List UInt8) : Journaled Memory Unit :=
  match m.load program with
  | (memory, .error failure) => ⟨memory, journal, .error failure⟩
  | (memory, .ok _) => ⟨memory, journal.write (Notice.loaded program.length).entry, .ok ()⟩

def loadFromJournaled (m : Memory) (journal : Journal) (deliveries : List Delivery) : Journaled Memory Unit :=
  match image deliveries with
  | .error failure => ⟨m, journal, .error failure⟩
  | .ok program => m.loadJournaled journal program

def performJournaled (m : Memory) (journal : Journal) : Operation → Journaled Memory Unit
  | .load program => m.loadJournaled journal program
  | .loadFrom deliveries => m.loadFromJournaled journal deliveries
  | .writeByte addr byte => m.writeByteJournaled journal addr byte
  | .write start data => m.writeJournaled journal start data
  | .reset => ⟨m.reset, journal, .ok ()⟩

end Memory

-- What a write of `count` bytes at `start` warns of: the numbers of the glyph cells that it leaves alone, in the
-- order of its bytes. Only lenient memory leaves cells alone.
def Mode.warnings (mode : Mode) (start : UInt16) (count : Nat) : List LogEntry :=
  match mode with
  | .lenient =>
      (((List.range count).map fun j => (start.toNat + j) % 4096).filter fun n => 0x50 ≤ n ∧ n < 0xA0).map fun n =>
        ⟨.warn, "dropping write to glyph memory at 0x" ++ Text.lowerHex 4 n⟩
  | .strict => []

namespace Mode

theorem warnings_zero (mode : Mode) (start : UInt16) : mode.warnings start 0 = [] := by
  cases mode <;> rfl

theorem warnings_eq (mode : Mode) (start : UInt16) (count : Nat) :
    mode.warnings start count = (mode.droppedCells start count).map fun cell => (Memory.Notice.dropped cell).entry := by
  cases mode with
  | strict => rfl
  | lenient =>
      have numbers : ((List.range count).map fun j => (start.toNat + j) % 4096) =
          ((Memory.addresses start count).map Memory.cellAt).map Fin.val := by
        rw [Memory.addresses, List.map_map, List.map_map]
        apply List.map_congr_left
        intro j _
        change (start.toNat + j) % 4096 = (start + UInt16.ofNat j).toNat % 4096
        rw [UInt16.toNat_add, UInt16.toNat_ofNat']
        omega
      rw [warnings, droppedCells, numbers, List.filter_map, List.map_map]
      rfl

def warningsAt (mode : Mode) (addrs : List UInt16) : List LogEntry :=
  match mode with
  | .lenient =>
      ((addrs.map Memory.cellAt).filter fun cell => Memory.InGlyphs cell.val).map fun cell =>
        (Memory.Notice.dropped cell).entry
  | .strict => []

theorem warnings_at_addresses (mode : Mode) (start : UInt16) (count : Nat) :
    mode.warningsAt (Memory.addresses start count) = mode.warnings start count := by
  rw [warnings_eq]
  cases mode <;> rfl

theorem warnings_at_cons (mode : Mode) (addr : UInt16) (rest : List UInt16) :
    mode.warningsAt (addr :: rest) = mode.warningsAt [addr] ++ mode.warningsAt rest := by
  cases mode with
  | strict => rfl
  | lenient => by_cases glyph : Memory.InGlyphs (Memory.cellAt addr).val <;> simp [warningsAt, glyph]

theorem aim_eq (mode : Mode) (journal : Journal) (addr : UInt16) :
    mode.aim journal addr = (journal.writeAll (mode.warningsAt [addr]), mode.writeCell addr) := by
  cases mode with
  | strict => rfl
  | lenient =>
      by_cases glyph : Memory.InGlyphs (Memory.cellAt addr).val <;>
        simp [aim, writeCell, warningsAt, glyph, Journal.writeAll]

-- A refusal cuts the run short, but only strict memory refuses, and strict memory has nothing to warn of.
theorem aim_all_eq (mode : Mode) (journal : Journal) (addrs : List UInt16) :
    mode.aimAll journal addrs = (journal.writeAll (mode.warningsAt addrs), addrs.mapM mode.writeCell) := by
  induction addrs generalizing journal with
  | nil => cases mode <;> rfl
  | cons addr rest ih =>
      rw [aimAll, aim_eq, List.mapM_cons]
      cases found : mode.writeCell addr with
      | error failure =>
          cases mode with
          | lenient => cases found
          | strict => rfl
      | ok target =>
          simp only [ih, Journal.write_all_append, ← warnings_at_cons]
          cases rest.mapM mode.writeCell <;> rfl

end Mode

namespace Memory

theorem write_byte_journaled (m : Memory) (journal : Journal) (addr : UInt16) (byte : UInt8) :
    m.writeByteJournaled journal addr byte =
      ⟨(m.writeByte addr byte).1, journal.writeAll (m.mode.warnings addr 1), (m.writeByte addr byte).2⟩ := by
  have only : addresses addr 1 = [addr] := by simp [addresses]
  rw [writeByteJournaled, Mode.aim_eq, ← only, Mode.warnings_at_addresses, writeByte]
  cases m.mode.writeCell addr <;> rfl

theorem write_journaled (m : Memory) (journal : Journal) (start : UInt16) (data : List UInt8) :
    m.writeJournaled journal start data =
      ⟨(m.write start data).1, journal.writeAll (m.mode.warnings start data.length), (m.write start data).2⟩ := by
  rw [writeJournaled, Mode.aim_all_eq, Mode.warnings_at_addresses, write]
  cases (addresses start data.length).mapM m.mode.writeCell <;> rfl

def loadLines (loaded : Except Failure Unit) (length : Nat) : List LogEntry :=
  match loaded with
  | .ok _ => [⟨.debug, "loaded " ++ toString length ++ " byte program at 0x0200"⟩]
  | .error _ => []

theorem loaded_entry (size : Nat) :
    (Notice.loaded size).entry = ⟨.debug, "loaded " ++ toString size ++ " byte program at 0x0200"⟩ := by
  have start : " byte program at 0x" ++ Text.lowerHex 4 programStart = " byte program at 0x0200" := by decide
  rw [Notice.entry, String.append_assoc, start]

theorem load_journaled (m : Memory) (journal : Journal) (program : List UInt8) :
    m.loadJournaled journal program =
      ⟨(m.load program).1, journal.writeAll (loadLines (m.load program).2 program.length), (m.load program).2⟩ := by
  rw [loadJournaled, loaded_entry]
  cases m.load program with
  | mk memory loaded => cases loaded <;> rfl

theorem load_from_journaled (m : Memory) (journal : Journal) (deliveries : List Delivery) :
    m.loadFromJournaled journal deliveries =
      ⟨(m.loadFrom deliveries).1,
        journal.writeAll (loadLines (m.loadFrom deliveries).2 ((image deliveries).toOption.getD []).length),
        (m.loadFrom deliveries).2⟩ := by
  rw [loadFromJournaled, loadFrom]
  cases image deliveries with
  | error failure => rfl
  | ok program => exact load_journaled m journal program

def linesOf (m : Memory) : Operation → List LogEntry
  | .load program => loadLines (m.load program).2 program.length
  | .loadFrom deliveries => loadLines (m.loadFrom deliveries).2 ((image deliveries).toOption.getD []).length
  | .writeByte addr _ => m.mode.warnings addr 1
  | .write start data => m.mode.warnings start data.length
  | .reset => []

theorem perform_journaled (m : Memory) (journal : Journal) (operation : Operation) :
    m.performJournaled journal operation =
      ⟨(m.perform operation).1, journal.writeAll (m.linesOf operation),
        (m.perform operation).2.map fun _ => ()⟩ := by
  cases operation with
  | load program =>
      change m.loadJournaled journal program = ⟨_, _, ((m.load program).2.map _).map _⟩
      rw [load_journaled, map_forgotten]
      rfl
  | loadFrom deliveries =>
      change m.loadFromJournaled journal deliveries = _
      rw [load_from_journaled, perform, linesOf, loadFrom]
      cases image deliveries with
      | error failure => rfl
      | ok program =>
          change Journaled.mk _ _ _ = ⟨_, _, ((m.load program).2.map _).map _⟩
          rw [map_forgotten]
          rfl
  | writeByte addr byte =>
      change m.writeByteJournaled journal addr byte = ⟨_, _, ((m.writeByte addr byte).2.map _).map _⟩
      rw [write_byte_journaled, map_forgotten]
      rfl
  | write start data =>
      change m.writeJournaled journal start data = ⟨_, _, ((m.write start data).2.map _).map _⟩
      rw [write_journaled, map_forgotten]
      rfl
  | reset => rfl

theorem refused_warnings (m : Memory) (start : UInt16) (data : List UInt8) (failure : Failure)
    (refused : (m.write start data).2 = .error failure) : m.mode.warnings start data.length = [] := by
  have strict := ((write_error_iff m start data failure).mp refused).1
  rw [strict]
  rfl

theorem write_notices (m : Memory) (start : UInt16) (data : List UInt8) :
    (((m.write start data).2.map fun _ => (m.mode.droppedCells start data.length).map Notice.dropped).toOption.getD
      []).map Notice.entry = m.mode.warnings start data.length := by
  cases written : (m.write start data).2 with
  | error failure => rw [refused_warnings m start data failure written]; rfl
  | ok =>
      rw [Mode.warnings_eq]
      exact List.map_map

theorem load_notices (m : Memory) (program : List UInt8) :
    (((m.load program).2.map fun _ => [Notice.loaded program.length]).toOption.getD []).map Notice.entry =
      loadLines (m.load program).2 program.length := by
  cases (m.load program).2 with
  | error failure => rfl
  | ok => rw [loadLines, ← loaded_entry]; rfl

theorem notices_eq (m : Memory) (operation : Operation) :
    ((m.perform operation).2.toOption.getD []).map Notice.entry = m.linesOf operation := by
  cases operation with
  | load program => exact load_notices m program
  | loadFrom deliveries =>
      rw [perform, linesOf, loadFrom]
      cases image deliveries with
      | error failure => rfl
      | ok program => exact load_notices m program
  | writeByte addr byte =>
      rw [perform, write_byte_eq]
      exact write_notices m addr [byte]
  | write start data => exact write_notices m start data
  | reset => rfl

end Memory

end Chip8
