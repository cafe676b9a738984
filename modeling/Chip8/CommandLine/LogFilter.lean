import Chip8.Log
import Chip8.Text.Blank

set_option autoImplicit false

namespace Chip8.CommandLine

structure Directive where
  module : Option (List Char)
  limit : Option Severity
deriving DecidableEq, Repr

namespace Directive

def limitOf? (text : List Char) : Option (Option Severity) :=
  if text.map Char.toLower = "off".toList then some none
  else (Severity.ofName? (String.ofList text)).map some

def ofText? (text : List Char) : Option Directive :=
  match text.splitOn '=' with
  | [single] =>
      match limitOf? single with
      | some limit => some ⟨none, limit⟩
      | none => some ⟨some single, some .trace⟩
  | [name, limit] =>
      if Text.trimmed limit = [] then some ⟨some name, some .trace⟩
      else (limitOf? (Text.trimmed limit)).map fun limit => ⟨some name, limit⟩
  | _ => none

end Directive

namespace LogFilter

def add (directives : List Directive) (directive : Directive) : List Directive :=
  directives.filter (fun earlier => earlier.module != directive.module) ++ [directive]

-- The directives of a filter. More than one slash makes the whole filter void.
def directives (spec : String) : List Directive :=
  match spec.toList.splitOn '/' with
  | modules :: rest =>
      if rest.length ≤ 1 then
        let texts := ((modules.splitOn ',').map Text.trimmed).filter (· ≠ [])
        (texts.filterMap Directive.ofText?).foldl add []
      else []
  | [] => []

-- Whether a filter lets entries of a severity through for some module. Without directives it lets through
-- errors alone.
def shows (spec : String) (severity : Severity) : Bool :=
  match directives spec with
  | [] => severity.rank ≤ Severity.error.rank
  | found => found.any fun directive =>
      match directive.limit with
      | some limit => severity.rank ≤ limit.rank
      | none => false

end LogFilter

end Chip8.CommandLine
