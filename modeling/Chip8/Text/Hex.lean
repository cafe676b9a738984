set_option autoImplicit false

namespace Chip8.Text

def hexDigits : Nat → Nat → List Char
  | 0, _ => []
  | width + 1, n => hexDigits width (n / 16) ++ [Nat.digitChar (n % 16)]

def lowerHex (width n : Nat) : String :=
  String.ofList (hexDigits width n)

def upperHex (width n : Nat) : String :=
  String.ofList ((hexDigits width n).map Char.toUpper)

theorem length_hex_digits (width n : Nat) : (hexDigits width n).length = width := by
  induction width generalizing n with
  | zero => rfl
  | succ width ih => simp [hexDigits, ih]

end Chip8.Text
