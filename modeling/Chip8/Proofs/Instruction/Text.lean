import Chip8.Instruction.Text
import Chip8.Proofs.Text.Hex

set_option autoImplicit false

namespace Chip8

namespace Text

def numbersIn (text : List Char) : List Nat :=
  ((text.splitOnP fun c => !c.isDigit).filter fun digits => !digits.isEmpty).map fun digits =>
    Nat.ofDigitChars 10 digits 0

theorem numbers_behind (front rest : List Char) (plain : front.any Char.isDigit = false) :
    numbersIn (front ++ rest) = numbersIn rest := by
  induction front with
  | nil => rfl
  | cons c front ih =>
      obtain ⟨first, behind⟩ := Bool.or_eq_false_iff.mp plain
      have others := ih behind
      have other : (!c.isDigit) = true := by
        rw [first]
        rfl
      have split : (c :: (front ++ rest)).splitOnP (fun c => !c.isDigit) =
          [] :: (front ++ rest).splitOnP fun c => !c.isDigit :=
        List.splitOnP_append_cons [] (front ++ rest) other
      rw [← others, numbersIn, List.cons_append, split]
      rfl

theorem number_before (n : Nat) (stop : Char) (rest : List Char) (other : stop.isDigit = false) :
    numbersIn (Nat.toDigits 10 n ++ stop :: rest) = n :: numbersIn rest := by
  have digits : ∀ c ∈ Nat.toDigits 10 n, (!c.isDigit) = false := by
    intro c member
    rw [Nat.isDigit_of_mem_toDigits (by decide) (by decide) member]
    rfl
  have split := List.splitOnP_append_cons_of_forall_mem digits stop (by simp [other]) rest
  have value : Nat.ofDigitChars 10 (Nat.toDigits 10 n) 0 = n := Nat.ofDigitChars_toDigits (by decide) (by decide)
  have some : (!(Nat.toDigits 10 n).isEmpty) = true := by
    rw [Bool.not_eq_true', List.isEmpty_eq_false_iff]
    exact Nat.toDigits_ne_nil
  rw [numbersIn, split, List.filter_cons, if_pos some, List.map_cons, value]
  rfl

theorem number_of_field (field : String × Nat) (stop : Char) (rest : List Char)
    (plain : field.1.toList.any Char.isDigit = false) (other : stop.isDigit = false) :
    numbersIn ((field.1 ++ ": " ++ toString field.2).toList ++ stop :: rest) = field.2 :: numbersIn rest := by
  have label : (field.1 ++ ": ").toList.any Char.isDigit = false := by
    rw [String.toList_append, List.any_append, plain]
    rfl
  have digits : (toString field.2).toList = Nat.toDigits 10 field.2 := Nat.toList_repr
  rw [String.toList_append, digits, List.append_assoc, numbers_behind _ _ label, number_before _ _ _ other]

theorem numbers_of_fields (fields : List (String × Nat))
    (plain : ∀ field ∈ fields, field.1.toList.any Char.isDigit = false) :
    numbersIn ((", ".intercalate (fields.map fun field => field.1 ++ ": " ++ toString field.2)).toList ++
      [' ', '\x7d']) = fields.map Prod.snd := by
  induction fields with
  | nil => rfl
  | cons field rest ih =>
      have first := plain field List.mem_cons_self
      have others := ih fun other member => plain other (List.mem_cons_of_mem field member)
      cases rest with
      | nil =>
          exact number_of_field field ' ' ['\x7d'] first rfl
      | cons next later =>
          have separator : ", ".toList = [',', ' '] := rfl
          rw [List.map_cons, List.map_cons, String.toList_intercalate, List.map_cons, List.map_cons,
            List.intercalate_cons_cons, separator, List.append_assoc, List.append_assoc, List.cons_append,
            number_of_field field ',' _ first rfl]
          rw [String.toList_intercalate, separator] at others
          exact congrArg (field.2 :: ·) ((numbers_behind [' '] _ rfl).trans others)

theorem numbers_labelled (name : String) (fields : List (String × Nat))
    (named : name.toList.any Char.isDigit = false)
    (plain : ∀ field ∈ fields, field.1.toList.any Char.isDigit = false) :
    numbersIn (labelled name (fields.map fun field => (field.1, toString field.2))).toList = fields.map Prod.snd := by
  cases fields with
  | nil =>
      have alone := numbers_behind name.toList [] named
      rw [List.append_nil] at alone
      exact alone
  | cons field rest =>
      have brace : " \x7b ".toList.any Char.isDigit = false := rfl
      have listed := numbers_of_fields (field :: rest) plain
      have ending : " \x7d".toList = [' ', '\x7d'] := rfl
      have text : (labelled name ((field :: rest).map fun field => (field.1, toString field.2))).toList =
          name.toList ++ (" \x7b ".toList ++ ((", ".intercalate ((field :: rest).map fun field =>
            field.1 ++ ": " ++ toString field.2)).toList ++ [' ', '\x7d'])) := by
        rw [List.map_cons, labelled, ← ending]
        · simp only [String.toList_append, List.append_assoc, List.map_cons, List.map_map, Function.comp_def]
        · exact List.cons_ne_nil _ _
      rw [text, numbers_behind _ _ named, numbers_behind _ _ brace, listed]

def nameIn (text : List Char) : String :=
  String.ofList (text.takeWhile Char.isAlpha)

theorem name_before (name : String) (stop : Char) (rest : List Char) (letters : name.toList.all Char.isAlpha = true)
    (other : stop.isAlpha = false) : nameIn (name.toList ++ stop :: rest) = name := by
  rw [nameIn, List.takeWhile_append_of_pos (List.all_eq_true.mp letters),
    List.takeWhile_cons_of_neg (by simp [other]), List.append_nil, String.ofList_toList]

theorem name_labelled (name : String) (fields : List (String × String))
    (letters : name.toList.all Char.isAlpha = true) : nameIn (labelled name fields).toList = name := by
  cases fields with
  | nil =>
      have alone : name.toList.takeWhile Char.isAlpha = name.toList := by
        rw [← List.append_nil name.toList, List.takeWhile_append_of_pos (List.all_eq_true.mp letters),
          List.takeWhile_nil]
      rw [labelled, nameIn, alone, String.ofList_toList]
  | cons field rest =>
      have brace : " \x7b ".toList = [' ', '\x7b', ' '] := rfl
      rw [labelled, String.toList_append, String.toList_append, String.toList_append, brace, List.append_assoc,
        List.append_assoc]
      · exact name_before name ' ' _ letters rfl
      · exact List.cons_ne_nil _ _

end Text

namespace Instruction

open Text (labelled nameIn numbersIn name_labelled numbers_labelled numbers_behind
  number_before name_before)

def named (name : String) (numbers : List Nat) : Option Instruction :=
  let x := Nibble.low (numbers.getD 0 0)
  let y := Nibble.low (numbers.getD 1 0)
  let n := Nibble.low (numbers.getD 2 0)
  let kk := UInt8.ofNat (numbers.getD 1 0)
  let nnn := Word.nnn (UInt16.ofNat (numbers.getD 0 0))
  match name with
  | "ClearScreen" => some clearScreen
  | "Return" => some ret
  | "Jump" => some (jump nnn)
  | "Call" => some (call nnn)
  | "SkipEqImm" => some (skipEqImm x kk)
  | "SkipNeImm" => some (skipNeImm x kk)
  | "SkipEqReg" => some (skipEqReg x y)
  | "LoadImm" => some (loadImm x kk)
  | "AddImm" => some (addImm x kk)
  | "Move" => some (move x y)
  | "Or" => some (or x y)
  | "And" => some (and x y)
  | "Xor" => some (xor x y)
  | "AddReg" => some (addReg x y)
  | "Sub" => some (sub x y)
  | "ShiftRight" => some (shiftRight x)
  | "SubReverse" => some (subReverse x y)
  | "ShiftLeft" => some (shiftLeft x)
  | "SkipNeReg" => some (skipNeReg x y)
  | "LoadIndex" => some (loadIndex nnn)
  | "JumpOffset" => some (jumpOffset nnn)
  | "Random" => some (random x kk)
  | "Draw" => some (draw x y n)
  | "SkipKeyDown" => some (skipKeyDown x)
  | "SkipKeyUp" => some (skipKeyUp x)
  | "LoadDelay" => some (loadDelay x)
  | "WaitKey" => some (waitKey x)
  | "SetDelay" => some (setDelay x)
  | "SetSound" => some (setSound x)
  | "AddIndex" => some (addIndex x)
  | "LoadGlyph" => some (loadGlyph x)
  | "StoreBcd" => some (storeBcd x)
  | "StoreRegs" => some (storeRegs x)
  | "LoadRegs" => some (loadRegs x)
  | "Unknown" => some (unknown (UInt16.ofNat (numbers.getD 0 0)))
  | _ => none

def read (text : List Char) : Option Instruction :=
  named (nameIn text) (numbersIn text)

structure Plain (name : String) : Prop where
  letters : name.toList.all Char.isAlpha = true
  noDigits : name.toList.any Char.isDigit = false

theorem read_labelled (name : String) (fields : List (String × Nat)) (plain : Plain name)
    (labels : ∀ field ∈ fields, field.1.toList.any Char.isDigit = false) :
    read (labelled name (fields.map fun field => (field.1, toString field.2))).toList =
      named name (fields.map Prod.snd) := by
  rw [read, name_labelled name _ plain.letters, numbers_labelled name fields plain.noDigits labels]

theorem nnn_of_val (nnn : Fin 4096) : Word.nnn (UInt16.ofNat nnn.val) = nnn := by
  have word : (UInt16.ofNat nnn.val).toNat = nnn.val :=
    UInt16.toNat_ofNat_of_lt' (Nat.lt_trans nnn.isLt (by decide))
  rw [Word.nnn, word]
  exact Fin.ofNat_val_eq_self nnn

theorem read_address (name : String) (nnn : Fin 4096) (instruction : Fin 4096 → Instruction)
    (plain : Plain name)
    (found : ∀ number, named name [number] = some (instruction (Word.nnn (UInt16.ofNat number)))) :
    read (withAddress name nnn).toList = some (instruction nnn) := by
  have text := read_labelled name [("nnn", nnn.val)] plain (by simp)
  rw [List.map_singleton, List.map_singleton, found, nnn_of_val] at text
  exact text

theorem read_register (name : String) (x : Nibble) (instruction : Nibble → Instruction)
    (plain : Plain name)
    (found : ∀ number, named name [number] = some (instruction (Nibble.low number))) :
    read (withRegister name x).toList = some (instruction x) := by
  have text := read_labelled name [("x", x.val)] plain (by simp)
  rw [List.map_singleton, List.map_singleton, found, Nibble.low_val] at text
  exact text

theorem read_registers (name : String) (x y : Nibble) (instruction : Nibble → Nibble → Instruction)
    (plain : Plain name)
    (found : ∀ first second, named name [first, second] = some (instruction (Nibble.low first) (Nibble.low second))) :
    read (withRegisters name x y).toList = some (instruction x y) := by
  have text := read_labelled name [("x", x.val), ("y", y.val)] plain (by simp)
  simp only [List.map_cons, List.map_nil, found, Nibble.low_val] at text
  exact text

theorem read_byte (name : String) (x : Nibble) (kk : UInt8) (instruction : Nibble → UInt8 → Instruction)
    (plain : Plain name)
    (found : ∀ first second, named name [first, second] = some (instruction (Nibble.low first) (UInt8.ofNat second))) :
    read (withByte name x kk).toList = some (instruction x kk) := by
  have text := read_labelled name [("x", x.val), ("kk", kk.toNat)] plain (by simp)
  simp only [List.map_cons, List.map_nil, found, Nibble.low_val, UInt8.ofNat_toNat] at text
  exact text

theorem read_draw (x y n : Nibble) : read (draw x y n).text.toList = some (draw x y n) := by
  have text := read_labelled "Draw" [("x", x.val), ("y", y.val), ("n", n.val)] ⟨rfl, rfl⟩ (by simp)
  have found : named "Draw" [x.val, y.val, n.val] =
      some (draw (Nibble.low x.val) (Nibble.low y.val) (Nibble.low n.val)) := rfl
  simp only [List.map_cons, List.map_nil, found, Nibble.low_val] at text
  exact text

theorem read_unknown (word : Word) : read (unknown word).text.toList = some (unknown word) := by
  have digits : (toString word.toNat).toList = Nat.toDigits 10 word.toNat := Nat.toList_repr
  have bracket : "Unknown(".toList = "Unknown".toList ++ ['('] := rfl
  have closing : ")".toList = [')'] := rfl
  have found : named "Unknown" [word.toNat] = some (unknown (UInt16.ofNat word.toNat)) := rfl
  have plain : ("Unknown".toList ++ ['(']).any Char.isDigit = false := rfl
  have number : numbersIn (unknown word).text.toList = [word.toNat] := by
    rw [text, String.toList_append, String.toList_append, digits, bracket, closing, List.append_assoc,
      numbers_behind _ _ plain, number_before _ _ _ rfl]
    rfl
  have name : nameIn (unknown word).text.toList = "Unknown" := by
    rw [text, String.toList_append, String.toList_append, bracket, List.append_assoc, List.append_assoc]
    exact name_before "Unknown" '(' _ rfl rfl
  rw [read, name, number, found, UInt16.ofNat_toNat]

theorem read_text (instruction : Instruction) : read instruction.text.toList = some instruction := by
  cases instruction with
  | clearScreen => exact read_labelled "ClearScreen" [] ⟨rfl, rfl⟩ (by simp)
  | ret => exact read_labelled "Return" [] ⟨rfl, rfl⟩ (by simp)
  | jump nnn => exact read_address "Jump" nnn jump ⟨rfl, rfl⟩ fun _ => rfl
  | call nnn => exact read_address "Call" nnn call ⟨rfl, rfl⟩ fun _ => rfl
  | skipEqImm x kk => exact read_byte "SkipEqImm" x kk skipEqImm ⟨rfl, rfl⟩ fun _ _ => rfl
  | skipNeImm x kk => exact read_byte "SkipNeImm" x kk skipNeImm ⟨rfl, rfl⟩ fun _ _ => rfl
  | skipEqReg x y => exact read_registers "SkipEqReg" x y skipEqReg ⟨rfl, rfl⟩ fun _ _ => rfl
  | loadImm x kk => exact read_byte "LoadImm" x kk loadImm ⟨rfl, rfl⟩ fun _ _ => rfl
  | addImm x kk => exact read_byte "AddImm" x kk addImm ⟨rfl, rfl⟩ fun _ _ => rfl
  | move x y => exact read_registers "Move" x y move ⟨rfl, rfl⟩ fun _ _ => rfl
  | or x y => exact read_registers "Or" x y or ⟨rfl, rfl⟩ fun _ _ => rfl
  | and x y => exact read_registers "And" x y and ⟨rfl, rfl⟩ fun _ _ => rfl
  | xor x y => exact read_registers "Xor" x y xor ⟨rfl, rfl⟩ fun _ _ => rfl
  | addReg x y => exact read_registers "AddReg" x y addReg ⟨rfl, rfl⟩ fun _ _ => rfl
  | sub x y => exact read_registers "Sub" x y sub ⟨rfl, rfl⟩ fun _ _ => rfl
  | shiftRight x => exact read_register "ShiftRight" x shiftRight ⟨rfl, rfl⟩ fun _ => rfl
  | subReverse x y => exact read_registers "SubReverse" x y subReverse ⟨rfl, rfl⟩ fun _ _ => rfl
  | shiftLeft x => exact read_register "ShiftLeft" x shiftLeft ⟨rfl, rfl⟩ fun _ => rfl
  | skipNeReg x y => exact read_registers "SkipNeReg" x y skipNeReg ⟨rfl, rfl⟩ fun _ _ => rfl
  | loadIndex nnn => exact read_address "LoadIndex" nnn loadIndex ⟨rfl, rfl⟩ fun _ => rfl
  | jumpOffset nnn => exact read_address "JumpOffset" nnn jumpOffset ⟨rfl, rfl⟩ fun _ => rfl
  | random x kk => exact read_byte "Random" x kk random ⟨rfl, rfl⟩ fun _ _ => rfl
  | skipKeyDown x => exact read_register "SkipKeyDown" x skipKeyDown ⟨rfl, rfl⟩ fun _ => rfl
  | skipKeyUp x => exact read_register "SkipKeyUp" x skipKeyUp ⟨rfl, rfl⟩ fun _ => rfl
  | loadDelay x => exact read_register "LoadDelay" x loadDelay ⟨rfl, rfl⟩ fun _ => rfl
  | waitKey x => exact read_register "WaitKey" x waitKey ⟨rfl, rfl⟩ fun _ => rfl
  | setDelay x => exact read_register "SetDelay" x setDelay ⟨rfl, rfl⟩ fun _ => rfl
  | setSound x => exact read_register "SetSound" x setSound ⟨rfl, rfl⟩ fun _ => rfl
  | addIndex x => exact read_register "AddIndex" x addIndex ⟨rfl, rfl⟩ fun _ => rfl
  | loadGlyph x => exact read_register "LoadGlyph" x loadGlyph ⟨rfl, rfl⟩ fun _ => rfl
  | storeBcd x => exact read_register "StoreBcd" x storeBcd ⟨rfl, rfl⟩ fun _ => rfl
  | storeRegs x => exact read_register "StoreRegs" x storeRegs ⟨rfl, rfl⟩ fun _ => rfl
  | loadRegs x => exact read_register "LoadRegs" x loadRegs ⟨rfl, rfl⟩ fun _ => rfl
  | draw x y n => exact read_draw x y n
  | unknown word => exact read_unknown word

end Instruction

end Chip8
