set_option autoImplicit false

namespace Chip8.Text

def labelled (name : String) : List (String × String) → String
  | [] => name
  | fields =>
      name ++ " \x7b " ++ ", ".intercalate (fields.map fun field => field.1 ++ ": " ++ field.2) ++ " \x7d"

end Chip8.Text
