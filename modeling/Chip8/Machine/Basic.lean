import Chip8.Keypad
import Chip8.Memory.Access
import Chip8.Random.Stream
import Chip8.Screen.Basic

set_option autoImplicit false

namespace Chip8

structure Machine where
  memory : Memory
  screen : Screen
  keypad : Keypad
  registers : Bank UInt8
  index : UInt16
  pc : UInt16
  -- Return addresses, newest first.
  stack : List UInt16
  delay : UInt8
  sound : UInt8
  lastOpcode : UInt16
  random : RandomStream
deriving DecidableEq

namespace Machine

structure Config where
  mode : Mode := .lenient
  seed : Option UInt64 := none
deriving DecidableEq, Repr

def Config.withSeed (config : Config) (seed : UInt64) : Config :=
  { config with seed := some seed }

def stackDepth : Nat := 16

def fresh (mode : Mode) (random : RandomStream) : Machine where
  memory := Memory.fresh mode
  screen := Screen.blank
  keypad := Keypad.released
  registers := Bank.fill 0
  index := 0
  pc := UInt16.ofNat Memory.programStart
  stack := []
  delay := 0
  sound := 0
  lastOpcode := 0
  random := random

-- Without a seed, entropy is the key itself.
def Config.stream (config : Config) (entropy : Random.Key) : RandomStream :=
  match config.seed with
  | some seed => RandomStream.ofSeed seed
  | none => ⟨entropy, 0⟩

def ofConfig (config : Config) (entropy : Random.Key) : Machine :=
  fresh config.mode (config.stream entropy)

def reset (m : Machine) : Machine :=
  { m with
    memory := m.memory.reset
    screen := Screen.blank
    keypad := Keypad.released
    registers := Bank.fill 0
    index := 0
    pc := UInt16.ofNat Memory.programStart
    stack := []
    delay := 0
    sound := 0
    lastOpcode := 0 }

def register (m : Machine) (x : Nibble) : UInt8 :=
  m.registers.get x

def setRegister (m : Machine) (x : Nibble) (value : UInt8) : Machine :=
  { m with registers := m.registers.set x value }

def tick (m : Machine) : Machine :=
  { m with delay := UInt8.ofNat (m.delay.toNat - 1), sound := UInt8.ofNat (m.sound.toNat - 1) }

def setKey (m : Machine) (key : UInt8) (down : Bool) : Machine :=
  { m with keypad := m.keypad.set key down }

def releaseKeys (m : Machine) : Machine :=
  { m with keypad := Keypad.released }

-- A program counter that cannot be fetched is no end.
def atProgramEnd (m : Machine) : Bool :=
  match m.memory.fetch m.pc with
  | .ok word => word == 0
  | .error _ => false

end Machine

end Chip8
