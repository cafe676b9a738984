import Chip8.Text.Hex

set_option autoImplicit false

namespace Chip8.Text

def digitValue (c : Char) : Nat :=
  if c.isDigit then c.toNat - 48 else c.toNat - 87

def readHex (digits : List Char) : Nat :=
  digits.foldl (fun n c => 16 * n + digitValue c) 0

theorem digit_value_char : ∀ d, d < 16 → digitValue (Nat.digitChar d) = d := by decide

theorem read_hex_succ (width n : Nat) :
    readHex (hexDigits (width + 1) n) = 16 * readHex (hexDigits width (n / 16)) + n % 16 := by
  have digit := digit_value_char (n % 16) (Nat.mod_lt n (by decide))
  rw [hexDigits, readHex, List.foldl_append, List.foldl_cons, List.foldl_nil, digit]
  rfl

theorem read_two_digits (n : Nat) (fits : n < 256) : readHex (hexDigits 2 n) = n := by
  have nothing : readHex (hexDigits 0 (n / 16 / 16)) = 0 := rfl
  rw [read_hex_succ, read_hex_succ, nothing]
  omega

theorem read_four_digits (n : Nat) (fits : n < 65536) : readHex (hexDigits 4 n) = n := by
  have low : n % 256 < 256 := Nat.mod_lt n (by decide)
  have high : n / 256 < 256 := by omega
  have upper := read_two_digits (n / 256) high
  rw [read_hex_succ, read_hex_succ, Nat.div_div_eq_div_mul, upper]
  omega

theorem mem_hex_digits (width n : Nat) (c : Char) (member : c ∈ hexDigits width n) :
    ∃ d, d < 16 ∧ c = Nat.digitChar d := by
  induction width generalizing n with
  | zero => exact absurd member List.not_mem_nil
  | succ width ih =>
      rcases List.mem_append.mp member with earlier | last
      · exact ih (n / 16) earlier
      · exact ⟨n % 16, Nat.mod_lt n (by decide), List.mem_singleton.mp last⟩

theorem newline_not_hex (width n : Nat) : '\n' ∉ hexDigits width n := by
  have noDigit : ∀ d, d < 16 → '\n' ≠ Nat.digitChar d := by decide
  intro member
  obtain ⟨d, below, same⟩ := mem_hex_digits width n '\n' member
  exact noDigit d below same

theorem newline_not_upper_hex (width n : Nat) : '\n' ∉ (hexDigits width n).map Char.toUpper := by
  have noDigit : ∀ d, d < 16 → (Nat.digitChar d).toUpper ≠ '\n' := by decide
  intro member
  obtain ⟨c, digit, same⟩ := List.mem_map.mp member
  obtain ⟨d, below, rfl⟩ := mem_hex_digits width n c digit
  exact noDigit d below same

theorem newline_not_decimal (n : Nat) : '\n' ∉ Nat.toDigits 10 n := by
  intro member
  have digit : Char.isDigit '\n' = true := Nat.isDigit_of_mem_toDigits (by decide) (by decide) member
  exact absurd digit (by decide)

def byteAt (line : List Char) (column : Nat) : UInt8 :=
  UInt8.ofNat (readHex ((line.drop column).take 2))

def wordAt (line : List Char) (column : Nat) : UInt16 :=
  UInt16.ofNat (readHex ((line.drop column).take 4))

theorem byte_at_spelled (line : List Char) (column : Nat) (byte : UInt8)
    (spelled : (line.drop column).take 2 = hexDigits 2 byte.toNat) : byteAt line column = byte := by
  rw [byteAt, spelled, read_two_digits byte.toNat byte.toNat_lt, UInt8.ofNat_toNat]

theorem word_at_spelled (line : List Char) (column : Nat) (word : UInt16)
    (spelled : (line.drop column).take 4 = hexDigits 4 word.toNat) : wordAt line column = word := by
  rw [wordAt, spelled, read_four_digits word.toNat word.toNat_lt, UInt16.ofNat_toNat]

def capitalWordAt (text : List Char) (column : Nat) : UInt16 :=
  wordAt (text.map Char.toLower) column

theorem capitals_lowered (width n : Nat) :
    ((hexDigits width n).map Char.toUpper).map Char.toLower = hexDigits width n := by
  have digit : ∀ d, d < 16 → (Nat.digitChar d).toUpper.toLower = Nat.digitChar d := by decide
  have same : ∀ c ∈ hexDigits width n, (Char.toLower ∘ Char.toUpper) c = id c := by
    intro c member
    obtain ⟨d, below, rfl⟩ := mem_hex_digits width n c member
    exact digit d below
  rw [List.map_map, List.map_congr_left same, List.map_id]

theorem capital_word_at_spelled (text : List Char) (column : Nat) (word : UInt16)
    (spelled : (text.drop column).take 4 = (upperHex 4 word.toNat).toList) : capitalWordAt text column = word := by
  apply word_at_spelled
  rw [← List.map_drop, ← List.map_take, spelled, upperHex, String.toList_ofList, capitals_lowered]

theorem capital_word_last (front : List Char) (word : UInt16) :
    capitalWordAt (front ++ (upperHex 4 word.toNat).toList) front.length = word := by
  apply capital_word_at_spelled
  rw [List.drop_left]
  exact List.take_of_length_le (by simp [upperHex, length_hex_digits])

theorem four_capitals (n : Nat) : ∃ a b c d, (upperHex 4 n).toList = [a, b, c, d] :=
  ⟨_, _, _, _, String.toList_ofList⟩

theorem two_digits (n : Nat) : ∃ high low, hexDigits 2 n = [high, low] := ⟨_, _, rfl⟩

theorem four_digits (n : Nat) : ∃ a b c d, hexDigits 4 n = [a, b, c, d] := ⟨_, _, _, _, rfl⟩

end Chip8.Text
