import Chip8.Instruction.Basic
import Chip8.Machine.Basic
import Chip8.Screen.Sprite

set_option autoImplicit false

namespace Chip8.Machine

def flagRegister : Nibble :=
  Nibble.low 0xF

def skipIf (m : Machine) (condition : Bool) : Machine :=
  if condition then { m with pc := m.pc + 2 } else m

-- Write the flag to VF and then the result to Vx, so that with x = F the result stays.
def setFlagThen (m : Machine) (x : Nibble) (flag result : UInt8) : Machine :=
  (m.setRegister flagRegister flag).setRegister x result

def decimalDigits (byte : UInt8) : List UInt8 :=
  [byte / 100, byte / 10 % 10, byte % 10]

def setRegisters (m : Machine) (x : Nibble) (bytes : List UInt8) : Machine :=
  { m with
    registers := Bank.ofFn fun j => if j.val ≤ x.val then bytes.getD j.val 0 else m.register j }

abbrev Effect := Machine × Except Failure Unit

def done (m : Machine) : Effect :=
  (m, .ok ())

def store (m : Machine) (bytes : List UInt8) : Effect :=
  let (memory, written) := m.memory.write m.index bytes
  ({ m with memory := memory }, written)

def execute (m : Machine) : Instruction → Effect
  | .clearScreen => done { m with screen := Screen.blank }
  | .ret =>
      match m.stack with
      | [] => (m, .error .stackUnderflow)
      | newest :: older => done { m with pc := newest, stack := older }
  | .jump nnn => done { m with pc := UInt16.ofNat nnn.val }
  | .call nnn =>
      if m.stack.length < stackDepth then
        done { m with pc := UInt16.ofNat nnn.val, stack := m.pc :: m.stack }
      else (m, .error .stackOverflow)
  | .skipEqImm x kk => done (m.skipIf (m.register x == kk))
  | .skipNeImm x kk => done (m.skipIf (m.register x != kk))
  | .skipEqReg x y => done (m.skipIf (m.register x == m.register y))
  | .skipNeReg x y => done (m.skipIf (m.register x != m.register y))
  | .loadImm x kk => done (m.setRegister x kk)
  | .addImm x kk => done (m.setRegister x (m.register x + kk))
  | .move x y => done (m.setRegister x (m.register y))
  | .or x y => done (m.setRegister x (m.register x ||| m.register y))
  | .and x y => done (m.setRegister x (m.register x &&& m.register y))
  | .xor x y => done (m.setRegister x (m.register x ^^^ m.register y))
  | .addReg x y =>
      let (vx, vy) := (m.register x, m.register y)
      done (m.setFlagThen x (decide (256 ≤ vx.toNat + vy.toNat)).toUInt8 (vx + vy))
  | .sub x y =>
      let (vx, vy) := (m.register x, m.register y)
      done (m.setFlagThen x (decide (vy < vx)).toUInt8 (vx - vy))
  | .shiftRight x =>
      let vx := m.register x
      done (m.setFlagThen x (vx % 2) (vx / 2))
  | .subReverse x y =>
      let (vx, vy) := (m.register x, m.register y)
      done (m.setFlagThen x (decide (vx < vy)).toUInt8 (vy - vx))
  | .shiftLeft x =>
      let vx := m.register x
      done (m.setFlagThen x (vx / 128) (vx + vx))
  | .loadIndex nnn => done { m with index := UInt16.ofNat nnn.val }
  | .jumpOffset nnn => done { m with pc := UInt16.ofNat ((m.register (Nibble.low 0)).toNat + nnn.val) }
  | .random x kk => done { m.setRegister x (m.random.byte &&& kk) with random := m.random.next }
  | .draw x y n =>
      match m.memory.read m.index n.val with
      | .error failure => (m, .error failure)
      | .ok rows =>
          let drawn := m.screen.draw (m.register x) (m.register y) rows
          done { m.setRegister flagRegister drawn.2.toUInt8 with screen := drawn.1 }
  | .skipKeyDown x => done (m.skipIf (m.keypad.isPressed (m.register x)))
  | .skipKeyUp x => done (m.skipIf (!m.keypad.isPressed (m.register x)))
  | .loadDelay x => done (m.setRegister x m.delay)
  | .waitKey x =>
      match m.keypad.first with
      | some key => done (m.setRegister x (UInt8.ofNat key.val))
      | none => done { m with pc := m.pc - 2 }
  | .setDelay x => done { m with delay := m.register x }
  | .setSound x => done { m with sound := m.register x }
  | .addIndex x => done { m with index := m.index + UInt16.ofNat (m.register x).toNat }
  | .loadGlyph x => done { m with index := Glyph.address (m.register x) }
  | .storeBcd x => m.store (decimalDigits (m.register x))
  | .storeRegs x => m.store (m.registers.toList.take (x.val + 1))
  | .loadRegs x =>
      match m.memory.read m.index (x.val + 1) with
      | .error failure => (m, .error failure)
      | .ok bytes => done (m.setRegisters x bytes)
  | .unknown _ => done m

end Chip8.Machine
