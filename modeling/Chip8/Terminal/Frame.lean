import Chip8.Host.Device
import Chip8.Screen.View

set_option autoImplicit false

namespace Chip8.Terminal

def boxWidth : Nat := Screen.width + 2

def boxHeight : Nat := Screen.height + 2

def topLine : String :=
  "┌CHIP-8" ++ String.ofList (List.replicate (Screen.width - "CHIP-8".length) '─') ++ "┐"

def bottomLine : String :=
  "└" ++ String.ofList (List.replicate Screen.width '─') ++ "┘"

def pixelLine (screen : Screen) (y : Nat) : String :=
  "│" ++ Screen.line '▄' ' ' screen y ++ "│"

def frameLines (screen : Screen) : List String :=
  [topLine] ++ (List.range Screen.height).map (pixelLine screen) ++ [bottomLine]

def whiteCells (screen : Screen) : Nat :=
  screen.litPixels.length

def blackCells (screen : Screen) : Nat :=
  boxWidth * boxHeight - screen.litPixels.length

structure Window where
  frame : Option Screen := none
deriving DecidableEq

def Window.draw (_ : Window) (screen : Screen) : Window × Except IoError Unit :=
  (⟨some screen⟩, .ok ())

instance : Display Window := ⟨Window.draw⟩

def Window.lines (window : Window) : List String :=
  match window.frame with
  | some screen => frameLines screen
  | none => []

end Chip8.Terminal
