import Mathlib.Data.List.Forall2
import Chip8.Proofs.Failure.Message
import Chip8.Proofs.Instruction.Text
import Chip8.Proofs.Machine.Dump
import Chip8.Proofs.Machine.Fault

set_option autoImplicit false

namespace Chip8.Machine

open Text (wordAt capitalWordAt word_at_spelled capital_word_at_spelled four_digits four_capitals)

structure Announcement where
  pc : UInt16
  word : Word
  instruction : Option Instruction
deriving DecidableEq

def readAnnouncement (text : List Char) : Announcement :=
  ⟨wordAt text 0, capitalWordAt text 6, Instruction.read (text.drop 11)⟩

theorem read_executing (pc : UInt16) (word : Word) :
    readAnnouncement (Record.executing pc word).entry.text.toList = ⟨pc, word, some (Instruction.decode word)⟩ := by
  obtain ⟨a, b, c, d, place⟩ := four_digits pc.toNat
  obtain ⟨e, f, g, h, spelled⟩ := four_capitals word.toNat
  have letters : (Record.executing pc word).entry.text.toList = Text.hexDigits 4 pc.toNat ++ ([':', ' '] ++
      ((Text.upperHex 4 word.toNat).toList ++ ([' '] ++ (Instruction.decode word).text.toList))) := by
    change (Text.lowerHex 4 pc.toNat ++ ": " ++ word.text ++ " " ++ (Instruction.decode word).text).toList = _
    simp only [String.toList_append, Text.lowerHex, String.toList_ofList, Word.text, List.append_assoc]
    rfl
  rw [letters, place, spelled]
  have first : wordAt ([a, b, c, d] ++ ([':', ' '] ++ ([e, f, g, h] ++ ([' '] ++
      (Instruction.decode word).text.toList)))) 0 = pc := word_at_spelled _ 0 pc place.symm
  have second : capitalWordAt ([a, b, c, d] ++ ([':', ' '] ++ ([e, f, g, h] ++ ([' '] ++
      (Instruction.decode word).text.toList)))) 6 = word := capital_word_at_spelled _ 6 word spelled.symm
  rw [readAnnouncement, first, second]
  exact congrArg (Announcement.mk pc word) (Instruction.read_text (Instruction.decode word))

-- A fault: where, why, and the machine that is left, with its program counter put back.
structure Report where
  pc : UInt16
  source : Failure
  left : Machine

namespace Report

def entry (report : Report) : LogEntry :=
  (Record.fault report.pc report.source report.left).entry

-- The first line of a fault ends with its cause; the dump stands behind it.
def causeIn (text : List Char) : List Char :=
  (text.drop 17).takeWhile (· != '\n')

def dumpIn (text : List Char) : List Char :=
  (text.dropWhile (· != '\n')).drop 1

structure ToldBy (report : Report) (text : List Char) : Prop where
  place : wordAt text 11 = report.pc
  cause : Failure.read (causeIn text) = some report.source
  shown : readDump (String.ofList (dumpIn text)) = report.left.shown
  layout : ∃ lines, report.left.DumpLayout (dumpIn text) lines

theorem letters_entry (report : Report) : report.entry.text.toList =
    ("fault at 0x".toList ++ (Text.hexDigits 4 report.pc.toNat ++ ([':', ' '] ++ report.source.message.toList))) ++
      '\n' :: report.left.coreDump.toList := by
  change ("fault at 0x" ++ Text.lowerHex 4 report.pc.toNat ++ ": " ++ report.source.message ++ "\n" ++
    report.left.coreDump).toList = _
  simp only [String.toList_append, Text.lowerHex, String.toList_ofList, List.append_assoc]
  rfl

theorem dump_in_entry (report : Report) (unbroken : '\n' ∉ report.source.message.toList) :
    dumpIn report.entry.text.toList = report.left.coreDump.toList := by
  have digits := Text.newline_not_hex 4 report.pc.toNat
  have before : ∀ c ∈ "fault at 0x".toList ++ (Text.hexDigits 4 report.pc.toNat ++ ([':', ' '] ++
      report.source.message.toList)), (c != '\n') = true := by
    intro c member
    rw [bne_iff_ne]
    rintro rfl
    simp [digits, unbroken] at member
  rw [dumpIn, letters_entry, List.dropWhile_append_of_pos before]
  rfl

theorem cause_in_entry (report : Report) (unbroken : '\n' ∉ report.source.message.toList) :
    causeIn report.entry.text.toList = report.source.message.toList := by
  obtain ⟨a, b, c, d, place⟩ := four_digits report.pc.toNat
  have before : ∀ c ∈ report.source.message.toList, (c != '\n') = true := by
    intro c member
    rw [bne_iff_ne]
    rintro rfl
    exact unbroken member
  have behind : report.entry.text.toList.drop 17 =
      report.source.message.toList ++ '\n' :: report.left.coreDump.toList := by
    rw [letters_entry, place]
    rfl
  rw [causeIn, behind, List.takeWhile_append_of_pos before]
  exact List.append_nil _

theorem told_by_entry (report : Report) (unbroken : '\n' ∉ report.source.message.toList)
    (plain : report.source.inWords = report.source) : report.ToldBy report.entry.text.toList where
  place := by
    obtain ⟨a, b, c, d, place⟩ := four_digits report.pc.toNat
    apply word_at_spelled
    rw [letters_entry, place]
    rfl
  cause := by rw [cause_in_entry report unbroken, Failure.read_message, plain]
  shown := by rw [dump_in_entry report unbroken, String.ofList_toList, read_core_dump]
  layout := by
    rw [dump_in_entry report unbroken]
    exact ⟨_, report.left.dump_layout⟩

end Report

theorem fault_source_plain (m : Machine) (opcode : Word) (source : Failure)
    (faulted : m.step.result = .error (.malformedProgram m.pc opcode source)) :
    '\n' ∉ source.message.toList ∧ source.inWords = source := by
  have outside (addr : UInt16) : '\n' ∉ (Failure.outOfRange addr).message.toList := by
    rw [Failure.out_of_range_letters]
    simp [Text.upperHex, Text.newline_not_upper_hex]
  have misaligned (addr : UInt16) : '\n' ∉ (Failure.misalignedFetch addr).message.toList := by
    rw [Failure.misaligned_fetch_letters]
    simp [Text.upperHex, Text.newline_not_upper_hex]
  have causes := (fault_source_iff m source).mp ⟨opcode, faulted⟩
  simp only [Memory.fetch_error_iff, refuses_decoded_iff] at causes
  rcases causes with ⟨_, ⟨_, rfl⟩ | ⟨_, _, rfl⟩⟩ | ⟨word, _, ⟨_, _, rfl⟩ | ⟨_, _, rfl⟩ | ⟨_, addr, _, rfl⟩⟩
  · exact ⟨outside m.pc, rfl⟩
  · exact ⟨misaligned m.pc, rfl⟩
  · exact ⟨by decide, rfl⟩
  · exact ⟨by decide, rfl⟩
  · exact ⟨outside addr, rfl⟩

end Chip8.Machine
