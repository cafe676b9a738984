import Chip8.Bank

set_option autoImplicit false

namespace Chip8

structure Keypad where
  keys : Bank Bool
deriving DecidableEq

namespace Keypad

def size : Nat := 16

def released : Keypad :=
  ⟨Bank.fill false⟩

def set (keypad : Keypad) (key : UInt8) (down : Bool) : Keypad :=
  if key.toNat < 16 then ⟨keypad.keys.set (Nibble.low key.toNat) down⟩ else keypad

def isPressed (keypad : Keypad) (key : UInt8) : Bool :=
  keypad.keys.get (Nibble.low key.toNat)

def pressed (keypad : Keypad) : List Nibble :=
  Nibble.all.filter keypad.keys.get

def first (keypad : Keypad) : Option Nibble :=
  Nibble.all.find? keypad.keys.get

def holding (keys : List UInt8) : Keypad :=
  keys.foldl (fun keypad key => keypad.set key true) released

end Keypad

end Chip8
