import Chip8.Screen.Basic

set_option autoImplicit false

namespace Chip8.Screen

def columns (row : UInt8) : List Nat :=
  (List.range 8).filter fun dx => row.toNat.testBit (7 - dx)

def targets (x y : Nat) : List UInt8 → List Pixel
  | [] => []
  | row :: rest => (columns row).map (fun dx => pixelAt (x + dx) y) ++ targets x (y + 1) rest

def strike (drawn : Screen × Bool) (p : Pixel) : Screen × Bool :=
  let lit := drawn.1.isLit p
  (drawn.1.paint p (!lit), drawn.2 || lit)

-- Draw a sprite. The flag says whether some pixel was switched off.
def draw (s : Screen) (x y : UInt8) (rows : List UInt8) : Screen × Bool :=
  (targets x.toNat y.toNat rows).foldl strike (s, false)

theorem strike_eq (drawn : Screen × Bool) (p : Pixel) :
    strike drawn p = (drawn.1.flip p, drawn.2 || drawn.1.isLit p) := rfl

theorem targets_append (x y : Nat) (upper lower : List UInt8) :
    targets x y (upper ++ lower) = targets x y upper ++ targets x (y + upper.length) lower := by
  induction upper generalizing y with
  | nil => simp [targets]
  | cons row rest ih => simp [targets, ih, Nat.add_assoc, Nat.add_comm 1]

end Chip8.Screen
