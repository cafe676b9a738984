import Chip8.Proofs.Machine.Effect
import Chip8.Proofs.Screen.Sprite

set_option autoImplicit false

namespace Chip8

-- A difference wraps around. The flag says that the first operand is the greater one, and then nothing wraps.
def Subtracts (a b result flag : Int) : Prop :=
  result = (a - b) % 256 ∧ (flag = 1 ↔ b < a) ∧ (flag = 1 → result = a - b) ∧ (a = b → flag = 0)

def Computes (low : Nat) (a b result flag : Int) : Prop :=
  (flag = 0 ∨ flag = 1) ∧
    match low with
    | 0x4 => result + 256 * flag = a + b
    | 0x5 => Subtracts a b result flag
    | 0x6 => a = 2 * result + flag
    | 0x7 => Subtracts b a result flag
    | 0xE => 2 * a = 256 * flag + result
    | _ => False

theorem flag_to_nat (condition : Prop) [Decidable condition] :
    (decide condition).toUInt8.toNat = if condition then 1 else 0 := by
  by_cases holds : condition
  · rw [decide_eq_true holds, if_pos holds]
    rfl
  · rw [decide_eq_false holds, if_neg holds]
    rfl

theorem sum_computed (a b : UInt8) :
    Computes 0x4 a.toNat b.toNat (a + b).toNat (decide (256 ≤ a.toNat + b.toNat)).toUInt8.toNat := by
  have left : a.toNat < 256 := a.toNat_lt
  have right : b.toNat < 256 := b.toNat_lt
  rw [Computes, flag_to_nat, UInt8.toNat_add]
  split <;> omega

theorem difference_computed (a b : UInt8) :
    Computes 0x5 a.toNat b.toNat (a - b).toNat (decide (b < a)).toUInt8.toNat := by
  have left : a.toNat < 256 := a.toNat_lt
  have right : b.toNat < 256 := b.toNat_lt
  rw [Computes, Subtracts, flag_to_nat, UInt8.toNat_sub]
  simp only [UInt8.lt_iff_toNat_lt]
  split <;> omega

theorem reverse_computed (a b : UInt8) :
    Computes 0x7 a.toNat b.toNat (b - a).toNat (decide (a < b)).toUInt8.toNat :=
  difference_computed b a

theorem half_computed (a b : UInt8) : Computes 0x6 a.toNat b.toNat (a / 2).toNat (a % 2).toNat := by
  have half : (a / 2).toNat = a.toNat / 2 := UInt8.toNat_div a 2
  have bit : (a % 2).toNat = a.toNat % 2 := UInt8.toNat_mod a 2
  rw [Computes]
  omega

theorem double_computed (a b : UInt8) : Computes 0xE a.toNat b.toNat (a + a).toNat (a / 128).toNat := by
  have bound : a.toNat < 256 := a.toNat_lt
  have bit : (a / 128).toNat = a.toNat / 128 := UInt8.toNat_div a 128
  rw [Computes, bit, UInt8.toNat_add]
  omega

namespace Machine

theorem register_set (m : Machine) (x r : Nibble) (value : UInt8) :
    (m.setRegister x value).register r = if x = r then value else m.register r :=
  Bank.get_set m.registers x r value

theorem register_set_flag (m : Machine) (x r : Nibble) (flag result : UInt8) :
    (m.setFlagThen x flag result).register r =
      if x = r then result else if flagRegister = r then flag else m.register r := by
  rw [setFlagThen, register_set, register_set]

theorem flag_written (m : Machine) (word : Word) (executed : m.Executes word) (instruction : Instruction)
    (spelled : Instruction.Spells word instruction) (flag result : UInt8)
    (effect : execute (m.advance word) instruction = done ((m.advance word).setFlagThen (Word.x word) flag result)) :
    (m.advance word).setFlagThen (Word.x word) flag result = m.step.machine := by
  have left := executes_spelled m word instruction executed spelled
  rw [effect] at left
  exact congrArg Prod.fst left

theorem arithmetic_writes (m : Machine) (word : Word) (executed : m.Executes word) (family : word.toNat / 4096 = 8)
    (low : word.toNat % 16 ∈ [0x4, 0x5, 0x6, 0x7, 0xE]) :
    ∃ flag result : UInt8, (m.advance word).setFlagThen (Word.x word) flag result = m.step.machine ∧
      Computes (word.toNat % 16) (m.register (Word.x word)).toNat (m.register (Word.y word)).toNat
        result.toNat flag.toNat := by
  have written := flag_written m word executed
  simp only [List.mem_cons, List.not_mem_nil, or_false] at low
  rcases low with digit | digit | digit | digit | digit
  · rw [digit]
    exact ⟨_, _, written _ (.addReg family digit) _ _ rfl, sum_computed _ _⟩
  · rw [digit]
    exact ⟨_, _, written _ (.sub family digit) _ _ rfl, difference_computed _ _⟩
  · rw [digit]
    exact ⟨_, _, written _ (.shiftRight family digit) _ _ rfl, half_computed _ _⟩
  · rw [digit]
    exact ⟨_, _, written _ (.subReverse family digit) _ _ rfl, reverse_computed _ _⟩
  · rw [digit]
    exact ⟨_, _, written _ (.shiftLeft family digit) _ _ rfl, double_computed _ _⟩

theorem executes_draw (m : Machine) (word : Word) (executed : m.Executes word) (family : word.toNat / 4096 = 0xD) :
    let drawn := m.screen.draw (m.register (Word.x word)) (m.register (Word.y word)) (m.bytesBehind (word.toNat % 16))
    m.step.machine = { (m.advance word).setRegister flagRegister drawn.2.toUInt8 with screen := drawn.1 } := by
  have effect := executes_spelled m word _ executed (.draw family)
  cases taken : m.memory.read m.index (word.toNat % 16) with
  | error failure =>
      have same : (m.advance word).memory.read (m.advance word).index (Word.n word).val = .error failure := taken
      rw [execute, same] at effect
      cases congrArg Prod.snd effect
  | ok rows =>
      have same : (m.advance word).memory.read (m.advance word).index (Word.n word).val = .ok rows := taken
      rw [execute, same, Memory.read_ok m.memory m.index _ rows taken] at effect
      exact (congrArg Prod.fst effect).symm

theorem arithmetic_exact (m : Machine) (word : Word) (executed : m.Executes word) (family : word.toNat / 4096 = 8)
    (low : word.toNat % 16 ∈ [0x4, 0x5, 0x6, 0x7, 0xE]) :
    (Word.x word ≠ flagRegister →
      Computes (word.toNat % 16) (m.register (Word.x word)).toNat (m.register (Word.y word)).toNat
        (m.step.machine.register (Word.x word)).toNat (m.step.machine.register flagRegister).toNat) ∧
    (Word.x word = flagRegister →
      ∃ lost, Computes (word.toNat % 16) (m.register (Word.x word)).toNat (m.register (Word.y word)).toNat
        (m.step.machine.register flagRegister).toNat lost) ∧
    ∀ r, r ≠ Word.x word → r ≠ flagRegister → m.step.machine.register r = m.register r := by
  obtain ⟨flag, result, left, computed⟩ := arithmetic_writes m word executed family low
  rw [← left]
  refine ⟨?_, ?_, ?_⟩
  · intro apart
    rw [register_set_flag, register_set_flag, if_pos rfl, if_neg apart, if_pos rfl]
    exact computed
  · intro same
    rw [register_set_flag, if_pos same]
    exact ⟨flag.toNat, computed⟩
  · intro r notResult notFlag
    rw [register_set_flag, if_neg notResult.symm, if_neg notFlag.symm]
    rfl

theorem add_immediate_exact (m : Machine) (word : Word) (executed : m.Executes word)
    (family : word.toNat / 4096 = 7) :
    (m.step.machine.register (Word.x word)).toNat = ((m.register (Word.x word)).toNat + word.toNat % 256) % 256 ∧
      ∀ r, r ≠ Word.x word → m.step.machine.register r = m.register r := by
  have effect := congrArg Prod.fst (executes_spelled m word _ executed (.addImm family))
  have left : (m.advance word).setRegister (Word.x word) (m.register (Word.x word) + Word.kk word) = m.step.machine :=
    effect
  rw [← left]
  refine ⟨?_, ?_⟩
  · rw [register_set, if_pos rfl, UInt8.toNat_add, Word.kk_to_nat]
  · intro r other
    rw [register_set, if_neg other.symm]
    rfl

theorem draw_exact (m : Machine) (word : Word) (executed : m.Executes word) (family : word.toNat / 4096 = 0xD) :
    let rows := m.bytesBehind (word.toNat % 16)
    let drawn := m.screen.draw (m.register (Word.x word)) (m.register (Word.y word)) rows
    m.step.machine.screen = drawn.1 ∧ m.step.machine.register flagRegister = drawn.2.toUInt8 ∧
      ∀ r, r ≠ flagRegister → m.step.machine.register r = m.register r := by
  intro rows drawn
  rw [executes_draw m word executed family]
  refine ⟨rfl, ?_, ?_⟩
  · exact Bank.get_set_self m.registers flagRegister _
  · intro r other
    exact Bank.get_set_ne m.registers flagRegister r _ other.symm

theorem length_bytes_behind (m : Machine) (count : Nat) : (m.bytesBehind count).length = count := by
  rw [bytesBehind, List.length_map, List.length_range]

-- A word has room for fifteen rows, so no pixel is struck twice: the flag tells whether a target was lit.
theorem draw_flag_iff (m : Machine) (word : Word) (executed : m.Executes word) (family : word.toNat / 4096 = 0xD) :
    m.step.machine.register flagRegister = 1 ↔
      ∃ c, 1 ≤ Screen.hits (m.register (Word.x word)) (m.register (Word.y word)) (m.bytesBehind (word.toNat % 16)) c ∧
        m.screen.value c = Screen.litValue := by
  obtain ⟨_, flag, _⟩ := draw_exact m word executed family
  have few : (m.bytesBehind (word.toNat % 16)).length ≤ 32 := by
    rw [length_bytes_behind]
    omega
  have set : ∀ collided : Bool, collided.toUInt8 = 1 ↔ collided = true := by decide
  rw [flag, set, Screen.collides_few_iff _ _ _ _ few]

theorem flags_survive_aliasing (m : Machine) (word : Word) (executed : m.Executes word) :
    (word.toNat / 4096 = 8 → word.toNat % 16 ∈ [0x4, 0x5, 0x6, 0x7, 0xE] →
      (Word.x word ≠ flagRegister →
        Computes (word.toNat % 16) (m.register (Word.x word)).toNat (m.register (Word.y word)).toNat
          (m.step.machine.register (Word.x word)).toNat (m.step.machine.register flagRegister).toNat) ∧
      (Word.x word = flagRegister →
        ∃ lost, Computes (word.toNat % 16) (m.register (Word.x word)).toNat (m.register (Word.y word)).toNat
          (m.step.machine.register flagRegister).toNat lost) ∧
      ∀ r, r ≠ Word.x word → r ≠ flagRegister → m.step.machine.register r = m.register r) ∧
    (word.toNat / 4096 = 7 →
      (m.step.machine.register (Word.x word)).toNat = ((m.register (Word.x word)).toNat + word.toNat % 256) % 256 ∧
      ∀ r, r ≠ Word.x word → m.step.machine.register r = m.register r) ∧
    (word.toNat / 4096 = 0xD →
      let rows := m.bytesBehind (word.toNat % 16)
      let drawn := m.screen.draw (m.register (Word.x word)) (m.register (Word.y word)) rows
      m.step.machine.screen = drawn.1 ∧ m.step.machine.register flagRegister = drawn.2.toUInt8 ∧
      (m.step.machine.register flagRegister = 1 ↔
        ∃ c, 1 ≤ Screen.hits (m.register (Word.x word)) (m.register (Word.y word)) rows c ∧
          m.screen.value c = Screen.litValue) ∧
      ∀ r, r ≠ flagRegister → m.step.machine.register r = m.register r) := by
  refine ⟨arithmetic_exact m word executed, add_immediate_exact m word executed, ?_⟩
  intro family
  obtain ⟨screen, flag, others⟩ := draw_exact m word executed family
  exact ⟨screen, flag, draw_flag_iff m word executed family, others⟩

def aliased : Machine :=
  { fresh .lenient (.ofSeed 0) with
    memory := ((Memory.fresh .lenient).load [0x8F, 0xF4, 0x8A, 0xF5, 0xDF, 0xA1, 0xDF, 0xA1]).1
    registers := ((Bank.fill 0).set (Nibble.low 0xA) 5).set (Nibble.low 0xF) 200
    index := 0x200 }

theorem aliased_flags_exact :
    aliased.Executes 0x8FF4 ∧ (aliased.after [.step]).register flagRegister = 144 ∧
      (aliased.after [.step]).Executes 0x8AF5 ∧
      (aliased.after [.step, .step]).register (Nibble.low 0xA) = 117 ∧
      (aliased.after [.step, .step]).register flagRegister = 0 ∧
      (aliased.after [.step, .step, .step]).Executes 0xDFA1 ∧
      (aliased.after [.step, .step, .step, .step]).register flagRegister = 1 ∧
      (aliased.after [.step, .step, .step, .step]).register (Nibble.low 0xA) = 117 := by
  have doubles : aliased.Executes 0x8FF4 := ⟨rfl, rfl⟩
  have subtracts : (aliased.after [.step]).Executes 0x8AF5 := ⟨rfl, rfl⟩
  have draws : (aliased.after [.step, .step, .step]).Executes 0xDFA1 := ⟨by decide +kernel, by decide +kernel⟩
  obtain ⟨doubling, _⟩ := flags_survive_aliasing aliased 0x8FF4 doubles
  obtain ⟨subtracting, _⟩ := flags_survive_aliasing (aliased.after [.step]) 0x8AF5 subtracts
  obtain ⟨_, _, drawing⟩ := flags_survive_aliasing (aliased.after [.step, .step, .step]) 0xDFA1 draws
  obtain ⟨_, lost, _⟩ := doubling rfl (by decide)
  obtain ⟨kept, _, _⟩ := subtracting rfl (by decide)
  obtain ⟨_, _, struck, others⟩ := drawing rfl
  have doubled : (aliased.after [.step]).register flagRegister = 144 := by
    obtain ⟨flag, bit, sum⟩ := lost rfl
    have exact : (((aliased.after [.step]).register flagRegister).toNat : Int) + 256 * flag = 200 + 200 := sum
    have bound := ((aliased.after [.step]).register flagRegister).toNat_lt
    apply UInt8.toNat_inj.mp
    change _ = 144
    omega
  obtain ⟨bit, wrapped, greater, _⟩ := kept (by decide)
  have operands : (aliased.after [.step]).register (Word.x 0x8AF5) = 5 ∧
      (aliased.after [.step]).register (Word.y 0x8AF5) = 144 := ⟨rfl, doubled⟩
  rw [operands.1, operands.2] at wrapped greater
  have lit : 1 ≤ Screen.hits ((aliased.after [.step, .step, .step]).register (Word.x 0xDFA1))
        ((aliased.after [.step, .step, .step]).register (Word.y 0xDFA1))
        ((aliased.after [.step, .step, .step]).bytesBehind 1) (Screen.pixelAt 0 21) ∧
      (aliased.after [.step, .step, .step]).screen.value (Screen.pixelAt 0 21) = Screen.litValue := by
    decide +kernel
  refine ⟨doubles, doubled, subtracts, ?_, ?_, draws, struck.mpr ⟨Screen.pixelAt 0 21, lit⟩, ?_⟩
  · apply UInt8.toNat_inj.mp
    exact Int.ofNat.inj wrapped
  · apply UInt8.toNat_inj.mp
    have least : ¬ (((144 : UInt8).toNat : Int) < (5 : UInt8).toNat) := by decide
    exact Int.ofNat.inj (bit.resolve_right fun set => least (greater.mp set))
  · exact others (Nibble.low 0xA) (by decide)

end Machine

end Chip8
