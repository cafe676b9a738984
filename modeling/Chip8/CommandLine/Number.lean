set_option autoImplicit false

namespace Chip8.CommandLine

def digits? (text : List Char) : Option Nat :=
  if text ≠ [] ∧ text.all Char.isDigit then
    some (text.foldl (fun value c => value * 10 + (c.toNat - '0'.toNat)) 0)
  else none

def natural? (bound : Nat) (text : String) : Option Nat :=
  let value :=
    match text.toList with
    | '+' :: rest => digits? rest
    | plain => digits? plain
  value.filter (· < bound)

def integer? (bound : Nat) (text : String) : Option Nat :=
  match text.toList with
  | '-' :: rest => (digits? rest).filter (· = 0)
  | _ => natural? bound text

end Chip8.CommandLine
