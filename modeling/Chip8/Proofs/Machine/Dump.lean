import Chip8.Machine.Dump
import Chip8.Proofs.Memory.Dump
import Chip8.Proofs.Screen.View

set_option autoImplicit false

namespace Chip8

namespace Machine

open Text (hexDigits byteAt wordAt byte_at_spelled word_at_spelled two_digits four_digits)

structure Shown where
  registers : Bank UInt8
  index : UInt16
  pc : UInt16
  stack : List UInt16
  delay : UInt8
  sound : UInt8
  lastOpcode : UInt16
  cells : Cells UInt8 12
  pixels : Cells Bool 11
deriving DecidableEq

def shown (m : Machine) : Shown :=
  ⟨m.registers, m.index, m.pc, m.stack, m.delay, m.sound, m.lastOpcode, m.memory.cells, m.screen.pixels⟩

-- With another separator in place of the closing bracket, all entries have the same width.
def readStack (line : List Char) : List UInt16 :=
  let entries := (line.drop 8).dropLast ++ [',', ' ']
  ((List.range (entries.length / 6)).map fun k => wordAt entries (6 * k)).reverse

def readDump (text : String) : Shown :=
  let lines := text.toList.splitOn '\n'
  let line := fun k => lines.getD k []
  let control := line 5
  let timers := control.drop (control.length - 22)
  { registers := Bank.ofFn fun x => byteAt (line (1 + x.val / 4)) (6 * (x.val % 4) + 3)
    index := wordAt control 2
    pc := wordAt control 10
    stack := readStack (line 6)
    delay := byteAt timers 4
    sound := byteAt timers 10
    lastOpcode := wordAt timers 18
    cells := Cells.ofFn 12 fun i => byteAt (line (8 + i / 16)) (3 * (i % 16) + 6)
    pixels := Cells.ofFn 11 fun i => (line (265 + i / 64)).getD (i % 64) '.' == '#' }

def registerColumn (m : Machine) (x : Nibble) : List Char :=
  'V' :: (hexDigits 1 x.val).map Char.toUpper ++ '=' :: hexDigits 2 (m.register x).toNat ++ [' ']

theorem register_line_columns (m : Machine) (row : Fin 4) :
    (m.registerLine row).toList =
      (List.range 4).flatMap fun column => m.registerColumn (Nibble.low (4 * row.val + column)) := by
  have columns : List.range 4 = (List.finRange 4).map Fin.val := rfl
  have digit : ∀ column : Fin 4, (Nibble.low (4 * row.val + column.val)).val = row.val * 4 + column.val := by
    intro column
    change (4 * row.val + column.val) % 16 = row.val * 4 + column.val
    omega
  have same : ∀ column : Fin 4, (⟨row.val * 4 + column.val, by omega⟩ : Nibble) =
      Nibble.low (4 * row.val + column.val) := by
    intro column
    exact Fin.ext (digit column).symm
  rw [columns, List.flatMap_map]
  simp [registerLine, registerColumn, Text.upperHex, Text.lowerHex, String.toList_join, List.flatMap_map, same, digit]

theorem length_register_column (m : Machine) (x : Nibble) : (m.registerColumn x).length = 6 := by
  simp [registerColumn, Text.length_hex_digits]

theorem register_value (m : Machine) (x : Nibble) :
    ((m.registerColumn x).drop 3).take 2 = hexDigits 2 (m.register x).toNat := by
  obtain ⟨high, low, digits⟩ := two_digits (m.register x).toNat
  rw [registerColumn, digits]
  rfl

theorem control_line_fields (m : Machine) : m.controlLine.toList =
    "I=".toList ++ hexDigits 4 m.index.toNat ++ " PC=".toList ++ hexDigits 4 m.pc.toNat ++
      " SP=".toList ++ Nat.toDigits 10 m.stack.length ++ (" DT=".toList ++ hexDigits 2 m.delay.toNat ++
      " ST=".toList ++ hexDigits 2 m.sound.toNat ++ " last=".toList ++ hexDigits 4 m.lastOpcode.toNat) := by
  change ("I=" ++ Text.lowerHex 4 m.index.toNat ++ " PC=" ++ Text.lowerHex 4 m.pc.toNat ++
    " SP=" ++ Nat.repr m.stack.length ++ " DT=" ++ Text.lowerHex 2 m.delay.toNat ++
    " ST=" ++ Text.lowerHex 2 m.sound.toNat ++ " last=" ++ Text.lowerHex 4 m.lastOpcode.toNat).toList = _
  simp only [String.toList_append, Text.lowerHex, String.toList_ofList, Nat.toList_repr, List.append_assoc]

theorem read_control_front (m : Machine) :
    wordAt m.controlLine.toList 2 = m.index ∧ wordAt m.controlLine.toList 10 = m.pc := by
  obtain ⟨a, b, c, d, index⟩ := four_digits m.index.toNat
  obtain ⟨e, f, g, h, pc⟩ := four_digits m.pc.toNat
  rw [control_line_fields]
  refine ⟨word_at_spelled _ _ _ ?_, word_at_spelled _ _ _ ?_⟩
  · rw [index, pc]
    rfl
  · rw [index, pc]
    rfl

theorem read_timers (m : Machine) (timers : List Char)
    (last : timers = m.controlLine.toList.drop (m.controlLine.toList.length - 22)) :
    byteAt timers 4 = m.delay ∧ byteAt timers 10 = m.sound ∧ wordAt timers 18 = m.lastOpcode := by
  obtain ⟨a, b, delay⟩ := two_digits m.delay.toNat
  obtain ⟨c, d, sound⟩ := two_digits m.sound.toNat
  obtain ⟨e, f, g, h, lastOpcode⟩ := four_digits m.lastOpcode.toNat
  rw [control_line_fields, delay, sound, lastOpcode, List.length_append] at last
  have width : (" DT=".toList ++ [a, b] ++ " ST=".toList ++ [c, d] ++ " last=".toList ++ [e, f, g, h]).length = 22 := rfl
  rw [width, Nat.add_sub_cancel, List.drop_left] at last
  subst last
  refine ⟨byte_at_spelled _ _ _ ?_, byte_at_spelled _ _ _ ?_, word_at_spelled _ _ _ ?_⟩
  · rw [delay]
    rfl
  · rw [sound]
    rfl
  · rw [lastOpcode]
    rfl

theorem read_register (m : Machine) (x : Nibble) (row : Fin 4) (above : row.val = x.val / 4) :
    byteAt (m.registerLine row).toList (6 * (x.val % 4) + 3) = m.register x := by
  have inside : x.val % 4 < (List.range 4).length := by
    rw [List.length_range]
    exact Nat.mod_lt _ (by decide)
  have widths : ∀ column ∈ List.range 4, (m.registerColumn (Nibble.low (4 * row.val + column))).length = 6 :=
    fun column _ => m.length_register_column _
  have here : Nibble.low (4 * row.val + (List.range 4)[x.val % 4]) = x := by
    apply Fin.ext
    rw [List.getElem_range]
    change (4 * row.val + x.val % 4) % 16 = x.val
    omega
  apply byte_at_spelled
  rw [register_line_columns, Text.take_in_column 6 (x.val % 4) 3 2 _ _ widths inside (by decide), here]
  exact m.register_value x

def stackColumn (addr : UInt16) : List Char :=
  hexDigits 4 addr.toNat ++ [',', ' ']

theorem length_stack_column (addr : UInt16) : (stackColumn addr).length = 6 := by
  rw [stackColumn, List.length_append, Text.length_hex_digits]
  rfl

theorem entries_columns (addrs : List UInt16) (nonempty : addrs ≠ []) :
    [',', ' '].intercalate (addrs.map fun addr => hexDigits 4 addr.toNat) ++ [',', ' '] =
      addrs.flatMap stackColumn := by
  have some : addrs.map (fun addr => hexDigits 4 addr.toNat) ≠ [] := mt List.map_eq_nil_iff.mp nonempty
  rw [Text.intercalate_then _ _ some, List.flatMap_map]
  rfl

theorem read_columns (addrs : List UInt16) :
    (List.range addrs.length).map (fun k => wordAt (addrs.flatMap stackColumn) (6 * k)) = addrs := by
  have widths : ∀ addr ∈ addrs, (stackColumn addr).length = 6 := fun addr _ => length_stack_column addr
  apply List.ext_getElem
  · rw [List.length_map, List.length_range]
  · intro k _ inside
    rw [List.getElem_map, List.getElem_range]
    apply word_at_spelled
    have column := Text.take_in_column 6 k 0 4 addrs stackColumn widths inside (by decide)
    rw [Nat.add_zero] at column
    rw [column, List.drop_zero, stackColumn, List.take_left' (Text.length_hex_digits 4 _)]

theorem read_entries (addrs : List UInt16) (entries : List Char)
    (listed : entries = [',', ' '].intercalate (addrs.map fun addr => hexDigits 4 addr.toNat) ++ [',', ' ']) :
    (List.range (entries.length / 6)).map (fun k => wordAt entries (6 * k)) = addrs := by
  by_cases empty : addrs = []
  · subst empty
    subst listed
    rfl
  · rw [entries_columns addrs empty] at listed
    subst listed
    have length := Text.length_columns 6 addrs stackColumn fun addr _ => length_stack_column addr
    rw [length, Nat.mul_div_cancel_left addrs.length (by decide)]
    exact read_columns addrs

theorem stack_line_entries (m : Machine) : m.stackLine.toList = "stack: [".toList ++
    ([',', ' '].intercalate (m.stack.reverse.map fun addr => hexDigits 4 addr.toNat) ++ [']']) := by
  simp [stackLine, String.toList_intercalate, Text.lowerHex, Function.comp_def]

theorem read_stack (m : Machine) : readStack m.stackLine.toList = m.stack := by
  have body : (m.stackLine.toList.drop 8).dropLast =
      [',', ' '].intercalate (m.stack.reverse.map fun addr => hexDigits 4 addr.toNat) := by
    rw [stack_line_entries]
    exact List.dropLast_concat
  rw [readStack, body, read_entries m.stack.reverse _ rfl, List.reverse_reverse]

theorem length_dump_lines (m : Machine) : m.dumpLines.length = 297 := by
  simp [dumpLines, Memory.dump, Screen.lines]

theorem register_line_at (m : Machine) (row : Fin 4) : m.dumpLines[1 + row.val]? = some (m.registerLine row) := by
  simp [dumpLines, List.getElem?_append, Nat.add_comm 1]

theorem control_line_at (m : Machine) : m.dumpLines[5]? = some m.controlLine := by
  simp [dumpLines]

theorem stack_line_at (m : Machine) : m.dumpLines[6]? = some m.stackLine := by
  simp [dumpLines, List.getElem?_append]

def linesBeforeMemory (m : Machine) : List String :=
  ["================REGISTER DUMP================"] ++ (List.finRange 4).map m.registerLine ++
    [m.controlLine, m.stackLine, "=================MEMORY DUMP================="]

theorem length_before_memory (m : Machine) : m.linesBeforeMemory.length = 8 := by
  simp [linesBeforeMemory]

theorem dump_lines_eq (m : Machine) : m.dumpLines =
    m.linesBeforeMemory ++ (m.memory.dump ++ ("================DISPLAY DUMP=================" :: m.screen.lines)) := by
  simp [dumpLines, linesBeforeMemory]

theorem memory_line_at (m : Machine) (row : Fin 256) :
    m.dumpLines[8 + row.val]? = some (m.memory.dumpLine row) := by
  have behind : m.linesBeforeMemory.length ≤ 8 + row.val := by
    rw [length_before_memory]
    exact Nat.le_add_right 8 row.val
  rw [dump_lines_eq, List.getElem?_append_right behind, length_before_memory, Nat.add_sub_cancel_left]
  simp [Memory.dump, List.getElem?_append]

theorem screen_line_at (m : Machine) (y : Nat) (inside : y < 32) :
    m.dumpLines[265 + y]? = some (Screen.line '#' '.' m.screen y) := by
  have behind : m.linesBeforeMemory.length ≤ 265 + y := by
    rw [length_before_memory]
    omega
  have behindMemory : m.memory.dump.length ≤ 257 + y := by
    simp [Memory.dump]
    omega
  have header : 265 + y - 8 = 257 + y := by omega
  have place : 257 + y - 256 = y + 1 := by omega
  rw [dump_lines_eq, List.getElem?_append_right behind, length_before_memory, header,
    List.getElem?_append_right behindMemory]
  simp [Memory.dump, place, Screen.lines, inside]

theorem register_line_unbroken (m : Machine) (row : Fin 4) : '\n' ∉ (m.registerLine row).toList := by
  rw [register_line_columns]
  simp [registerColumn, Text.newline_not_hex, Text.newline_not_upper_hex]

theorem control_line_unbroken (m : Machine) : '\n' ∉ m.controlLine.toList := by
  rw [control_line_fields]
  simp [Text.newline_not_hex, Text.newline_not_decimal]

theorem stack_line_unbroken (m : Machine) : '\n' ∉ m.stackLine.toList := by
  have entries : '\n' ∉ [',', ' '].intercalate (m.stack.reverse.map fun addr => hexDigits 4 addr.toNat) := by
    apply Text.not_mem_intercalate
    · decide
    · intro entry member
      obtain ⟨addr, _, rfl⟩ := List.mem_map.mp member
      exact Text.newline_not_hex 4 addr.toNat
  rw [stack_line_entries, List.mem_append, List.mem_append]
  rintro (header | listed | bracket)
  · exact absurd header (by simp)
  · exact entries listed
  · exact absurd bracket (by decide)

theorem dump_line_unbroken (m : Machine) : ∀ line ∈ m.dumpLines, '\n' ∉ line.toList := by
  intro line member
  simp only [dumpLines, Memory.dump, Screen.lines, List.mem_append, List.mem_map, List.mem_cons, List.not_mem_nil,
    or_false] at member
  rcases member with ((((header | ⟨row, _, rfl⟩) | rfl | rfl | header) | ⟨row, _, rfl⟩) | header) | ⟨y, _, rfl⟩
  · simp [header]
  · exact m.register_line_unbroken row
  · exact m.control_line_unbroken
  · exact m.stack_line_unbroken
  · simp [header]
  · exact m.memory.dump_line_unbroken row
  · simp [header]
  · exact Screen.line_unbroken '#' '.' m.screen y (by decide)

theorem lines_unbroken (m : Machine) : ∀ line ∈ m.dumpLines.map String.toList, '\n' ∉ line := by
  intro line member
  obtain ⟨written, listed, rfl⟩ := List.mem_map.mp member
  exact m.dump_line_unbroken written listed

theorem core_dump_lines (m : Machine) :
    m.coreDump.toList = (m.dumpLines.map String.toList).flatMap (· ++ ['\n']) := by
  simp [coreDump, String.toList_join, List.flatMap_map]

theorem split_core_dump (m : Machine) :
    m.coreDump.toList.splitOn '\n' = m.dumpLines.map String.toList ++ [[]] := by
  rw [core_dump_lines]
  exact Text.split_lines _ m.lines_unbroken

theorem line_of_dump (m : Machine) (k : Nat) (line : String) (here : m.dumpLines[k]? = some line) :
    (m.coreDump.toList.splitOn '\n').getD k [] = line.toList := by
  have mapped : (m.dumpLines.map String.toList)[k]? = some line.toList := by
    rw [List.getElem?_map, here]
    rfl
  have inside : k < (m.dumpLines.map String.toList).length := (List.getElem?_eq_some_iff.mp mapped).1
  rw [split_core_dump, List.getD_eq_getElem?_getD, List.getElem?_append_left inside, mapped]
  rfl

theorem read_registers (m : Machine) : (Bank.ofFn fun x =>
    byteAt ((m.coreDump.toList.splitOn '\n').getD (1 + x.val / 4) []) (6 * (x.val % 4) + 3)) = m.registers := by
  apply Bank.eq_of_get
  intro x
  have row : x.val / 4 < 4 := by omega
  have line := m.line_of_dump (1 + x.val / 4) _ (m.register_line_at ⟨x.val / 4, row⟩)
  rw [Bank.get_of_fn, line]
  exact m.read_register x ⟨x.val / 4, row⟩ rfl

theorem read_cells (m : Machine) : (Cells.ofFn 12 fun i =>
    byteAt ((m.coreDump.toList.splitOn '\n').getD (8 + i / 16) []) (3 * (i % 16) + 6)) = m.memory.cells := by
  apply Cells.eq_of_get
  intro i inside
  have below : i < 4096 := inside
  have row : i / 16 < 256 := by omega
  have line := m.line_of_dump (8 + i / 16) _ (m.memory_line_at ⟨i / 16, row⟩)
  rw [Cells.get_of_fn, Nat.mod_eq_of_lt inside, line]
  exact m.memory.read_cell ⟨i, below⟩ ⟨i / 16, row⟩ rfl

theorem read_pixels (m : Machine) : (Cells.ofFn 11 fun i =>
    ((m.coreDump.toList.splitOn '\n').getD (265 + i / 64) []).getD (i % 64) '.' == '#') = m.screen.pixels := by
  apply Cells.eq_of_get
  intro i inside
  have below : i < 2048 := inside
  have column : i % 64 < 64 := Nat.mod_lt i (by decide)
  have line := m.line_of_dump (265 + i / 64) _ (m.screen_line_at (i / 64) (by omega))
  have pixel : m.screen.isOn (i % 64) (i / 64) = m.screen.pixels.get i := m.screen.is_on_place ⟨i, below⟩
  have mark : ∀ lit : Bool, ((if lit = true then '#' else '.') == '#') = lit := by decide
  rw [Cells.get_of_fn, Nat.mod_eq_of_lt inside, line, List.getD_eq_getElem?_getD,
    Screen.line_get '#' '.' m.screen _ _ column, Option.getD_some, mark, pixel]

theorem read_core_dump (m : Machine) : readDump m.coreDump = m.shown := by
  have control := m.line_of_dump 5 _ m.control_line_at
  have stack := m.line_of_dump 6 _ m.stack_line_at
  obtain ⟨index, pc⟩ := m.read_control_front
  obtain ⟨delay, sound, lastOpcode⟩ := m.read_timers _ rfl
  simp only [readDump, shown, control, stack, index, pc, delay, sound, lastOpcode, m.read_registers, m.read_cells,
    m.read_pixels, m.read_stack]

theorem shown_eq_iff (m n : Machine) : m.shown = n.shown ↔
    (∀ x, m.register x = n.register x) ∧ m.index = n.index ∧ m.pc = n.pc ∧ m.stack = n.stack ∧ m.delay = n.delay ∧
      m.sound = n.sound ∧ m.lastOpcode = n.lastOpcode ∧ (∀ c, m.memory.cell c = n.memory.cell c) ∧
      ∀ p, m.screen.isLit p = n.screen.isLit p := by
  simp only [shown, Shown.mk.injEq]
  constructor
  · rintro ⟨registers, index, pc, stack, delay, sound, lastOpcode, cells, pixels⟩
    refine ⟨?_, index, pc, stack, delay, sound, lastOpcode, ?_, ?_⟩
    · intro x
      rw [register, register, registers]
    · intro c
      rw [Memory.cell, Memory.cell, cells]
    · intro p
      rw [Screen.isLit, Screen.isLit, pixels]
  · rintro ⟨registers, index, pc, stack, delay, sound, lastOpcode, cells, pixels⟩
    refine ⟨?_, index, pc, stack, delay, sound, lastOpcode, ?_, ?_⟩
    · exact Bank.eq_of_get m.registers n.registers registers
    · apply Cells.eq_of_get
      intro i inside
      exact cells ⟨i, inside⟩
    · exact congrArg Screen.pixels (Screen.eq_of_is_lit m.screen n.screen pixels)

theorem core_dump_shown (m n : Machine) (same : m.shown = n.shown) : m.coreDump = n.coreDump := by
  obtain ⟨registers, index, pc, stack, delay, sound, lastOpcode, cells, pixels⟩ := (shown_eq_iff m n).mp same
  have screen : m.screen = n.screen := Screen.eq_of_is_lit m.screen n.screen pixels
  have registerLines : m.registerLine = n.registerLine := by
    funext row
    simp only [registerLine, registers]
  have control : m.controlLine = n.controlLine := by
    rw [← String.toList_inj, control_line_fields, control_line_fields, index, pc, stack, delay, sound, lastOpcode]
  have memory : m.memory.dump = n.memory.dump := by
    have lines : m.memory.dumpLine = n.memory.dumpLine := by
      funext row
      simp only [Memory.dumpLine, cells]
    rw [Memory.dump, Memory.dump, lines]
  rw [coreDump, coreDump, dumpLines, dumpLines, registerLines, control, stackLine, stackLine, stack, memory, screen]

structure DumpLayout (m : Machine) (text : List Char) (lines : List (List Char)) : Prop where
  count : lines.length = 297
  ended : text = lines.flatMap (· ++ ['\n'])
  unbroken : ∀ line ∈ lines, '\n' ∉ line
  registerHeader : lines[0]? = some "================REGISTER DUMP================".toList
  registers : ∀ row : Fin 4, lines[1 + row.val]? =
    some ((List.range 4).flatMap fun column => m.registerColumn (Nibble.low (4 * row.val + column)))
  control : lines[5]? = some
    ("I=".toList ++ hexDigits 4 m.index.toNat ++ " PC=".toList ++ hexDigits 4 m.pc.toNat ++
      " SP=".toList ++ Nat.toDigits 10 m.stack.length ++ (" DT=".toList ++ hexDigits 2 m.delay.toNat ++
      " ST=".toList ++ hexDigits 2 m.sound.toNat ++ " last=".toList ++ hexDigits 4 m.lastOpcode.toNat))
  stack : lines[6]? = some
    ("stack: [".toList ++ (", ".toList.intercalate (m.stack.reverse.map fun addr => hexDigits 4 addr.toNat) ++ [']']))
  memoryHeader : lines[7]? = some "=================MEMORY DUMP=================".toList
  memory : ∀ row : Fin 256, lines[8 + row.val]? =
    some (hexDigits 4 (16 * row.val) ++ ':' ::
      (List.range 16).flatMap fun column => m.memory.dumpColumn (Memory.Cell.low (16 * row.val + column)))
  displayHeader : lines[264]? = some "================DISPLAY DUMP=================".toList
  screen : ∀ y : Fin 32, lines[265 + y.val]? =
    some ((List.range 64).map fun x => if m.screen.isOn x y.val then '#' else '.')

theorem dump_layout (m : Machine) : m.DumpLayout m.coreDump.toList (m.dumpLines.map String.toList) where
  count := by rw [List.length_map, length_dump_lines]
  ended := m.core_dump_lines
  unbroken := m.lines_unbroken
  registerHeader := rfl
  registers := by
    intro row
    rw [List.getElem?_map, register_line_at, Option.map_some, register_line_columns]
  control := by
    rw [List.getElem?_map, control_line_at, Option.map_some, control_line_fields]
  stack := by
    rw [List.getElem?_map, stack_line_at, Option.map_some, stack_line_entries]
    rfl
  memoryHeader := by
    simp [dumpLines, List.getElem?_append]
  memory := by
    intro row
    rw [List.getElem?_map, memory_line_at, Option.map_some, Memory.dump_line_columns]
  displayHeader := by
    simp [dump_lines_eq, List.getElem?_append, Memory.dump, length_before_memory]
  screen := by
    intro y
    rw [List.getElem?_map, screen_line_at m y.val y.isLt, Option.map_some, Screen.line_list]

theorem core_dump_loses_nothing :
    (∀ m : Machine, readDump m.coreDump = m.shown) ∧
    (∀ m n : Machine, m.coreDump = n.coreDump ↔
      (∀ x, m.register x = n.register x) ∧ m.index = n.index ∧ m.pc = n.pc ∧ m.stack = n.stack ∧
        m.delay = n.delay ∧ m.sound = n.sound ∧ m.lastOpcode = n.lastOpcode ∧
        (∀ c, m.memory.cell c = n.memory.cell c) ∧ ∀ p, m.screen.isLit p = n.screen.isLit p) ∧
    (∀ m : Machine, ∃ lines, m.DumpLayout m.coreDump.toList lines) := by
  refine ⟨read_core_dump, ?_, fun m => ⟨_, m.dump_layout⟩⟩
  intro m n
  rw [← shown_eq_iff]
  constructor
  · intro same
    rw [← read_core_dump, ← read_core_dump, same]
  · exact core_dump_shown m n

end Machine

end Chip8
