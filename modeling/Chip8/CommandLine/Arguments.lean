import Chip8.CommandLine.Number

set_option autoImplicit false

namespace Chip8.CommandLine

structure Options where
  rom : String
  ips : UInt32
  strict : Bool
  seed : Option UInt64
  cycles : Option UInt64
  stopAtEnd : Bool
deriving DecidableEq, Repr

inductive Request where
  | help
  | version
  | run (options : Options)
deriving DecidableEq, Repr

inductive Misuse where
  | unknownOption (name : String)
  | missingValue (option : String)
  | needlessValue (option : String)
  | repeated (option : String)
  | invalidValue (option value : String)
  | extraOperand (operand : String)
  | emptyRom
  | missingRom
deriving DecidableEq, Repr

def Misuse.message : Misuse → String
  | unknownOption name => "unexpected argument " ++ name
  | missingValue option => "a value is required for --" ++ option
  | needlessValue option => "no value is expected for --" ++ option
  | repeated option => "--" ++ option ++ " cannot be used more than once"
  | invalidValue option value => "invalid value " ++ value ++ " for --" ++ option
  | extraOperand operand => "unexpected argument " ++ operand
  | emptyRom => "the program image needs a name"
  | missingRom => "a program image is required"

structure Draft where
  rom : Option String := none
  ips : Option UInt32 := none
  strict : Bool := false
  seed : Option UInt64 := none
  cycles : Option UInt64 := none
  stopAtEnd : Bool := false

namespace Draft

def defaultIps : UInt32 := 700

def addOperand (draft : Draft) (operand : String) : Except Misuse Draft :=
  match draft.rom with
  | some _ => .error (.extraOperand operand)
  | none => if operand.isEmpty then .error .emptyRom else .ok { draft with rom := some operand }

def setIps (draft : Draft) (value : String) : Except Misuse Draft :=
  if draft.ips.isSome then .error (.repeated "ips")
  else
    match integer? UInt32.size value with
    | some n => .ok { draft with ips := some (UInt32.ofNat n) }
    | none => .error (.invalidValue "ips" value)

def setSeed (draft : Draft) (value : String) : Except Misuse Draft :=
  if draft.seed.isSome then .error (.repeated "seed")
  else
    match natural? UInt64.size value with
    | some n => .ok { draft with seed := some (UInt64.ofNat n) }
    | none => .error (.invalidValue "seed" value)

def setCycles (draft : Draft) (value : String) : Except Misuse Draft :=
  if draft.cycles.isSome then .error (.repeated "cycles")
  else
    match natural? UInt64.size value with
    | some n => .ok { draft with cycles := some (UInt64.ofNat n) }
    | none => .error (.invalidValue "cycles" value)

def setStrict (draft : Draft) : Except Misuse Draft :=
  if draft.strict then .error (.repeated "strict") else .ok { draft with strict := true }

def setStopAtEnd (draft : Draft) : Except Misuse Draft :=
  if draft.stopAtEnd then .error (.repeated "stop-at-end") else .ok { draft with stopAtEnd := true }

def complete (draft : Draft) : Except Misuse Request :=
  match draft.rom with
  | some rom =>
      .ok (.run ⟨rom, draft.ips.getD defaultIps, draft.strict, draft.seed, draft.cycles, draft.stopAtEnd⟩)
  | none => .error .missingRom

end Draft

inductive Meaning where
  | valued (set : Draft → String → Except Misuse Draft)
  | switch (set : Draft → Except Misuse Draft)
  | final (request : Request)

def meaning? : String → Option Meaning
  | "ips" => some (.valued Draft.setIps)
  | "seed" => some (.valued Draft.setSeed)
  | "cycles" => some (.valued Draft.setCycles)
  | "strict" => some (.switch Draft.setStrict)
  | "stop-at-end" => some (.switch Draft.setStopAtEnd)
  | "help" => some (.final .help)
  | "version" => some (.final .version)
  | _ => none

def isValue (text : String) : Bool :=
  text = "-" || text.toList.head? ≠ some '-'

def splitOption (body : List Char) : String × Option String :=
  (String.ofList (body.takeWhile (· ≠ '=')),
    match body.dropWhile (· ≠ '=') with
    | _ :: value => some (String.ofList value)
    | [] => none)

def shortOption (letter : Char) : Except Misuse Request :=
  match letter with
  | 'h' => .ok .help
  | 'V' => .ok .version
  | _ => .error (.unknownOption ("-" ++ letter.toString))

def scan (draft : Draft) : List String → Except Misuse Request
  | [] => draft.complete
  | arg :: rest =>
      match arg.toList with
      | ['-', '-'] => (rest.foldlM Draft.addOperand draft).bind Draft.complete
      | '-' :: '-' :: body =>
          let (name, inline?) := splitOption body
          match meaning? name, inline? with
          | none, _ => .error (.unknownOption ("--" ++ name))
          | some (.valued set), some value => (set draft value).bind fun next => scan next rest
          | some (.valued set), none =>
              match rest with
              | value :: rest =>
                  if isValue value then (set draft value).bind fun next => scan next rest
                  else .error (.missingValue name)
              | [] => .error (.missingValue name)
          | some (.switch set), none => (set draft).bind fun next => scan next rest
          | some (.final request), none => .ok request
          | some _, some _ => .error (.needlessValue name)
      | '-' :: letter :: _ => shortOption letter
      | _ => (draft.addOperand arg).bind fun next => scan next rest

def parse (args : List String) : Except Misuse Request :=
  scan {} args

end Chip8.CommandLine
