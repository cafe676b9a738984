set_option autoImplicit false

namespace Chip8

inductive Severity where
  | error
  | warn
  | info
  | debug
  | trace
deriving DecidableEq, Repr

namespace Severity

def all : List Severity :=
  [error, warn, info, debug, trace]

def rank : Severity → Nat
  | error => 0
  | warn => 1
  | info => 2
  | debug => 3
  | trace => 4

def name : Severity → String
  | error => "ERROR"
  | warn => "WARN"
  | info => "INFO"
  | debug => "DEBUG"
  | trace => "TRACE"

def ofName? (text : String) : Option Severity :=
  all.find? fun severity => severity.name == text.map Char.toUpper

end Severity

structure LogEntry where
  severity : Severity
  text : String
deriving DecidableEq, Repr

namespace LogEntry

def report (limit : Severity) (entries : List LogEntry) : List LogEntry :=
  entries.filter fun entry => entry.severity.rank ≤ limit.rank

end LogEntry

end Chip8
