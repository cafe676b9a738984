import Chip8.Terminal.Frame

set_option autoImplicit false

namespace Chip8.Terminal

structure Box where
  title : String
  width : Nat
  height : Nat
deriving DecidableEq, Repr

structure Picture extends Box where
  left : Int
  right : Int
  bottom : Int
  top : Int
  points : List (Int × Int)
deriving DecidableEq, Repr

def screenBox : Box where
  title := "CHIP-8"
  width := boxWidth
  height := boxHeight

def points (screen : Screen) : List (Int × Int) :=
  screen.lit.map fun pair => ((pair.1 : Int), -(pair.2 : Int))

def picture (screen : Screen) : Picture where
  toBox := screenBox
  left := 0
  right := (Screen.width : Int) - 1
  bottom := -((Screen.height : Int) - 1)
  top := 0
  points := points screen

end Chip8.Terminal
