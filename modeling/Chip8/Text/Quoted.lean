import Chip8.Text.Printable

set_option autoImplicit false

namespace Chip8.Text

def codePoint (c : Char) : String :=
  String.ofList (Nat.toDigits 16 c.toNat)

def escaped (c : Char) : String :=
  match c with
  | '\x00' => "\\0"
  | '\t' => "\\t"
  | '\r' => "\\r"
  | '\n' => "\\n"
  | '\'' => "\\'"
  | '\\' => "\\\\"
  | _ => if isHidden c then "\\u\x7b" ++ codePoint c ++ "\x7d" else c.toString

def quoted (c : Char) : String :=
  "'" ++ escaped c ++ "'"

end Chip8.Text
