import Chip8.CommandLine.Arguments
import Chip8.CommandLine.LogFilter
import Chip8.Host.Basic
import Chip8.Memory.Operation
import Chip8.Machine.Operation
import Chip8.Terminal.Frame
import Chip8.Terminal.Keyboard

set_option autoImplicit false

namespace Chip8.CommandLine

abbrev TerminalHost := Host Terminal.Keyboard Terminal.Window

def Options.machineConfig (options : Options) : Machine.Config :=
  ⟨if options.strict then .strict else .lenient, options.seed⟩

def Options.hostConfig (options : Options) : Host.Config :=
  { instructionsPerSecond := options.ips
    maxCycles := options.cycles.map UInt64.toNat
    stopAtProgramEnd := options.stopAtEnd }

def closingLines : Nat := 12

inductive Ending where
  | misused (misuse : Misuse)
  | told
  | unopened (error : SystemError)
  | unloaded (failure : Failure)
  | ran (verdict : Verdict)

namespace Ending

def failure? (filter : String) : Ending → Option String
  | unopened error => some error.detail
  | unloaded failure => some failure.detail
  | ran (.error failure) => if LogFilter.shows filter .info then some failure.detail else none
  | _ => none

def exitCode (filter : String) (ending : Ending) : UInt32 :=
  match ending with
  | misused _ => 2
  | _ => if (ending.failure? filter).isSome then 1 else 0

def report? (filter : String) (ending : Ending) : Option String :=
  (ending.failure? filter).map ("Error: " ++ ·)

end Ending

def start (options : Options) (entropy : Random.Key) (opened : Except SystemError (List Memory.Delivery))
    (waiting : List (List Terminal.Event)) : Except Ending TerminalHost :=
  match opened with
  | .error error => .error (.unopened error)
  | .ok deliveries =>
      let loaded := (Machine.ofConfig options.machineConfig entropy).perform (.memory (.loadFrom deliveries))
      match loaded.result with
      | .error failure => .error (.unloaded failure)
      | .ok _ =>
          .ok
            { config := options.hostConfig
              machine := loaded.machine
              input := { waiting := waiting }
              display := {}
              journal := (loaded.records.map Host.Record.machine).toArray }

def versionLine : String := "chip8-vm 0.1.0"

end Chip8.CommandLine
