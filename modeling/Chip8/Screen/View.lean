import Chip8.Screen.Basic

set_option autoImplicit false

namespace Chip8.Screen

def litValue : UInt32 := 0xFFFFFFFF

def darkValue : UInt32 := 0

def value (s : Screen) (p : Pixel) : UInt32 :=
  if s.isLit p then litValue else darkValue

def snapshot (s : Screen) : List UInt32 :=
  (List.finRange 2048).map s.value

def litPixels (s : Screen) : List Pixel :=
  (List.finRange 2048).filter s.isLit

def lit (s : Screen) : List (Nat × Nat) :=
  s.litPixels.map fun p => (p.val % 64, p.val / 64)

def line (lit dark : Char) (s : Screen) (y : Nat) : String :=
  String.ofList ((List.range 64).map fun x => if s.isOn x y then lit else dark)

def lines (s : Screen) : List String :=
  (List.range 32).map (line '#' '.' s)

def text (s : Screen) : String :=
  String.join (s.lines.map (· ++ "\n"))

end Chip8.Screen
