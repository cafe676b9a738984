import Chip8.IoError
import Chip8.Keypad
import Chip8.Log
import Chip8.Screen.Basic

set_option autoImplicit false

namespace Chip8

inductive Control where
  | proceed
  | quit
deriving DecidableEq, Repr

structure Poll (ι : Type) where
  control : Except IoError Control
  input : ι
  keypad : Keypad
  entries : List LogEntry

class Input (ι : Type) where
  poll : ι → Keypad → Poll ι

class Display (δ : Type) where
  draw : δ → Screen → δ × Except IoError Unit

end Chip8
