import Chip8.Text.Labelled

set_option autoImplicit false

namespace Chip8

inductive SystemError where
  | notFound
  | permissionDenied
  | notADirectory
  | isADirectory
  | nameTooLong
  | tooManyLinks
  | other (code : Nat) (message : String)
deriving DecidableEq, Repr

namespace SystemError

def code : SystemError → Nat
  | notFound => 2
  | permissionDenied => 13
  | notADirectory => 20
  | isADirectory => 21
  | nameTooLong => 36
  | tooManyLinks => 40
  | other code _ => code

def kind : SystemError → String
  | notFound => "NotFound"
  | permissionDenied => "PermissionDenied"
  | notADirectory => "NotADirectory"
  | isADirectory => "IsADirectory"
  | nameTooLong => "InvalidFilename"
  | tooManyLinks => "FilesystemLoop"
  | other .. => "Uncategorized"

def message : SystemError → String
  | notFound => "No such file or directory"
  | permissionDenied => "Permission denied"
  | notADirectory => "Not a directory"
  | isADirectory => "Is a directory"
  | nameTooLong => "File name too long"
  | tooManyLinks => "Too many levels of symbolic links"
  | other _ message => message

def named : List SystemError :=
  [notFound, permissionDenied, notADirectory, isADirectory, nameTooLong, tooManyLinks]

def ofCode (code : Nat) (message : String) : SystemError :=
  (named.find? fun error => error.code = code).getD (other code message)

def text (error : SystemError) : String :=
  error.message ++ " (os error " ++ toString error.code ++ ")"

def detail (error : SystemError) : String :=
  Text.labelled "Os"
    [("code", toString error.code), ("kind", error.kind), ("message", "\"" ++ error.message ++ "\"")]

end SystemError

inductive IoError where
  | told (text : String)
  | system (error : SystemError)
deriving DecidableEq, Repr

namespace IoError

def text : IoError → String
  | told text => text
  | system error => error.text

def detail : IoError → String
  | told text => Text.labelled "Custom" [("kind", "Other"), ("error", "\"" ++ text ++ "\"")]
  | system error => error.detail

end IoError

end Chip8
