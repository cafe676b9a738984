import Chip8.Failure
import Chip8.Proofs.Text.Hex

set_option autoImplicit false

namespace Chip8

namespace Text

def digitsAt (text : List Char) (column : Nat) : List Char :=
  (text.drop column).takeWhile Char.isDigit

theorem digits_at_spelled (text rest : List Char) (column n : Nat) (stop : Char) (other : stop.isDigit = false)
    (spelled : text.drop column = Nat.toDigits 10 n ++ stop :: rest) : digitsAt text column = Nat.toDigits 10 n := by
  have digits : ∀ c ∈ Nat.toDigits 10 n, c.isDigit = true :=
    fun c member => Nat.isDigit_of_mem_toDigits (by decide) (by decide) member
  rw [digitsAt, spelled, List.takeWhile_append_of_pos digits, List.takeWhile_cons_of_neg (by simp [other]),
    List.append_nil]

end Text

namespace Failure

open Text (capitalWordAt capital_word_at_spelled digitsAt digits_at_spelled)

-- A failure as its message tells it: an i/o error is known by its text.
def inWords : Failure → Failure
  | malformedProgram pc opcode source => malformedProgram pc opcode source.inWords
  | io error => io (.told error.text)
  | programTooLarge size limit => programTooLarge size limit
  | outOfRange addr => outOfRange addr
  | misalignedFetch addr => misalignedFetch addr
  | stackOverflow => stackOverflow
  | stackUnderflow => stackUnderflow

-- The failure that a message tells; of other texts nothing is asked. Columns are counted from the third letter on.
def read : List Char → Option Failure
  | 'p' :: 'r' :: text =>
      let size := digitsAt text 20
      let limit := digitsAt text (41 + size.length)
      some (programTooLarge (Nat.ofDigitChars 10 size 0) (Nat.ofDigitChars 10 limit 0))
  | 'm' :: 'e' :: text => some (outOfRange (capitalWordAt text 38))
  | 'i' :: 'n' :: text => some (misalignedFetch (capitalWordAt text 35))
  | 'c' :: 'a' :: _ => some stackOverflow
  | 'r' :: 'e' :: _ => some stackUnderflow
  | 'm' :: 'a' :: text =>
      (read (text.drop 43)).map (malformedProgram (capitalWordAt text 21) (capitalWordAt text 36))
  | 'i' :: 'o' :: text => some (io (.told (String.ofList (text.drop 8))))
  | _ => none
termination_by text => text.length
decreasing_by
  simp only [List.length_drop, List.length_cons]
  omega

theorem message_in_words (failure : Failure) : failure.inWords.message = failure.message := by
  induction failure with
  | malformedProgram pc opcode source ih =>
      exact congrArg (fun told => "malformed program at " ++ hexAddress pc ++ " (opcode " ++ hexAddress opcode ++
        "): " ++ told) ih
  | _ => rfl

theorem program_too_large_letters (size limit : Nat) : (programTooLarge size limit).message.toList =
    'p' :: 'r' :: ("ogram is too large (".toList ++ (Nat.toDigits 10 size ++ (" bytes), max size is ".toList ++
      (Nat.toDigits 10 limit ++ " bytes".toList)))) := by
  change ("program is too large (" ++ Nat.repr size ++ " bytes), max size is " ++ Nat.repr limit ++ " bytes").toList = _
  simp only [String.toList_append, Nat.toList_repr, List.append_assoc]
  rfl

theorem out_of_range_letters (addr : UInt16) : (outOfRange addr).message.toList =
    'm' :: 'e' :: ("mory access out of range at address 0x".toList ++ (Text.upperHex 4 addr.toNat).toList) := by
  change ("memory access out of range at address " ++ ("0x" ++ Text.upperHex 4 addr.toNat)).toList = _
  simp only [String.toList_append]
  rfl

theorem misaligned_fetch_letters (addr : UInt16) : (misalignedFetch addr).message.toList =
    'i' :: 'n' :: ("struction fetch from odd address 0x".toList ++ (Text.upperHex 4 addr.toNat).toList) := by
  change ("instruction fetch from odd address " ++ ("0x" ++ Text.upperHex 4 addr.toNat)).toList = _
  simp only [String.toList_append]
  rfl

theorem malformed_program_letters (pc opcode : UInt16) (source : Failure) :
    (malformedProgram pc opcode source).message.toList =
      'm' :: 'a' :: ("lformed program at 0x".toList ++ ((Text.upperHex 4 pc.toNat).toList ++ (" (opcode 0x".toList ++
        ((Text.upperHex 4 opcode.toNat).toList ++ ("): ".toList ++ source.message.toList))))) := by
  change ("malformed program at " ++ ("0x" ++ Text.upperHex 4 pc.toNat) ++ " (opcode " ++
    ("0x" ++ Text.upperHex 4 opcode.toNat) ++ "): " ++ source.message).toList = _
  simp only [String.toList_append, List.append_assoc]
  rfl

theorem io_letters (error : IoError) :
    (io error).message.toList = 'i' :: 'o' :: (" error: ".toList ++ error.text.toList) := by
  change ("io error: " ++ error.text).toList = _
  rw [String.toList_append]
  rfl

theorem read_program_too_large (size limit : Nat) :
    read (programTooLarge size limit).message.toList = some (programTooLarge size limit) := by
  rw [program_too_large_letters]
  generalize letters : "ogram is too large (".toList ++ (Nat.toDigits 10 size ++ (" bytes), max size is ".toList ++
    (Nat.toDigits 10 limit ++ " bytes".toList))) = text
  have first : digitsAt text 20 = Nat.toDigits 10 size := by
    apply digits_at_spelled text _ 20 size ' ' rfl
    rw [← letters]
    rfl
  have second : digitsAt text (41 + (Nat.toDigits 10 size).length) = Nat.toDigits 10 limit := by
    have before : ("ogram is too large (".toList ++ Nat.toDigits 10 size ++ " bytes), max size is ".toList).length =
        41 + (Nat.toDigits 10 size).length := by
      rw [List.length_append, List.length_append]
      exact Nat.add_right_comm 20 _ 21
    apply digits_at_spelled text _ _ limit ' ' rfl
    rw [← letters, ← List.append_assoc, ← List.append_assoc, List.drop_left' before]
    rfl
  rw [read, first, second, Nat.ofDigitChars_toDigits (by decide) (by decide),
    Nat.ofDigitChars_toDigits (by decide) (by decide)]

-- One layer. Once both words are spelled out as four letters each, the three columns are closed terms.
theorem read_malformed_program (pc opcode : UInt16) (source : Failure) :
    read (malformedProgram pc opcode source).message.toList =
      (read source.message.toList).map (malformedProgram pc opcode) := by
  obtain ⟨a, b, c, d, pcDigits⟩ := Text.four_capitals pc.toNat
  obtain ⟨e, f, g, h, opcodeDigits⟩ := Text.four_capitals opcode.toNat
  rw [malformed_program_letters, pcDigits, opcodeDigits, read, capital_word_at_spelled _ 21 pc,
    capital_word_at_spelled _ 36 opcode]
  · rfl
  · exact opcodeDigits.symm
  · exact pcDigits.symm

theorem read_message (failure : Failure) : read failure.message.toList = some failure.inWords := by
  induction failure with
  | programTooLarge size limit => exact read_program_too_large size limit
  | outOfRange addr =>
      have last := Text.capital_word_last "mory access out of range at address 0x".toList addr
      rw [out_of_range_letters, read]
      exact congrArg (fun addr => some (outOfRange addr)) last
  | misalignedFetch addr =>
      have last := Text.capital_word_last "struction fetch from odd address 0x".toList addr
      rw [misaligned_fetch_letters, read]
      exact congrArg (fun addr => some (misalignedFetch addr)) last
  | stackOverflow =>
      have letters : stackOverflow.message.toList = 'c' :: 'a' :: "ll stack overflow".toList := rfl
      rw [letters, read, inWords]
  | stackUnderflow =>
      have letters : stackUnderflow.message.toList = 'r' :: 'e' :: "turn with an empty call stack".toList := rfl
      rw [letters, read, inWords]
  | malformedProgram pc opcode source ih =>
      rw [read_malformed_program, ih]
      rfl
  | io error =>
      have rest : (" error: ".toList ++ error.text.toList).drop 8 = error.text.toList := rfl
      rw [io_letters, read, rest, String.ofList_toList, inWords]

theorem message_eq_iff (a b : Failure) : a.message = b.message ↔ a.inWords = b.inWords := by
  constructor
  · intro same
    have readings : some a.inWords = some b.inWords := by
      rw [← read_message a, ← read_message b, same]
    exact Option.some.inj readings
  · intro same
    rw [← message_in_words a, same, message_in_words b]

-- An i/o error may tell what another failure tells.
example : (malformedProgram 0x0200 0x00EE (io (.told "return with an empty call stack"))).message ≠
    (malformedProgram 0x0200 0x00EE stackUnderflow).message := by decide

end Failure

end Chip8
