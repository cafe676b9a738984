import Chip8.CommandLine.Session

set_option autoImplicit false

namespace Chip8.CommandLine

def usage : String :=
  "Run a CHIP-8 program in the terminal. Esc quits.\n\n" ++
  "Usage: chip8 [OPTIONS] <ROM>\n\n" ++
  "  <ROM>              program image, loaded at 0x200\n" ++
  "  --ips <IPS>        instructions per second, 700 unless given\n" ++
  "  --strict           range-check every memory access and stop on a fault\n" ++
  "  --seed <SEED>      seed for the random number opcode\n" ++
  "  --cycles <CYCLES>  stop after this many instructions\n" ++
  "  --stop-at-end      stop when PC reaches a 0x0000 word\n" ++
  "  -h, --help         print help\n" ++
  "  -V, --version      print version\n"

def eventOf (c : Char) : Terminal.Event :=
  if c = '\x1b' then .escape else .character c

partial def readKeys (input : IO.FS.Stream) (typed : IO.Ref (List Char)) : IO Unit := do
  let line ← input.getLine
  if line.isEmpty then return
  typed.modify (· ++ line.toList.filter (· ≠ '\n'))
  readKeys input typed

def drawWindow (output : IO.FS.Stream) (window : Terminal.Window) : IO Unit := do
  output.putStr "\x1b[H"
  for line in window.lines do
    output.putStr (line ++ "\n")
  output.flush

def writeLog (filter : String) (journal : Array Host.Record) : IO Unit := do
  for record in journal do
    let entry := record.entry
    if LogFilter.shows filter entry.severity then
      IO.eprintln ("[" ++ entry.severity.name ++ "] " ++ entry.text)

partial def runTicks (filter : String) (typed : IO.Ref (List Char)) (clock : Clock) (deadline : Nat)
    (host : TerminalHost) : IO Verdict := do
  let events := (← typed.swap []).map eventOf
  let supplied := { host with input := { host.input with waiting := [events] } }
  let (next, verdict) := supplied.tick clock.batch.toNat
  writeLog filter next.journal
  drawWindow (← IO.getStdout) next.display
  match verdict with
  | some verdict => return verdict
  | none =>
      let now ← IO.monoNanosNow
      if host.config.realtime && now < deadline then
        IO.sleep (UInt32.ofNat ((deadline - now) / 1000000))
      runTicks filter typed clock.next (deadline + 1000000000 / clock.ticks.toNat) { next with journal := #[] }

def systemErrorOf : IO.Error → SystemError
  | .noFileOrDirectory .. => .notFound
  | .permissionDenied .. => .permissionDenied
  | .inappropriateType _ code details | .invalidArgument _ code details | .resourceExhausted _ code details
  | .noSuchThing _ code details => SystemError.ofCode code.toNat details
  | .hardwareFault code details | .otherError code details => SystemError.ofCode code.toNat details
  | error => .other 0 (toString error)

def openImage (path : String) : IO (Except SystemError (List Memory.Delivery)) := do
  match ← (IO.FS.Handle.mk path .read).toBaseIO with
  | .error error => return .error (systemErrorOf error)
  | .ok handle =>
      match ← handle.readBinToEnd.toBaseIO with
      | .error error => return .ok [.failed (.system (systemErrorOf error))]
      | .ok program => return .ok [.bytes program.toList]

def drawKey : IO Random.Key := do
  let word : IO UInt32 := do return UInt32.ofNat (← IO.rand 0 (UInt32.size - 1))
  return #v[← word, ← word, ← word, ← word, ← word, ← word, ← word, ← word]

def runSession (filter : String) (options : Options) : IO Ending := do
  match start options (← drawKey) (← openImage options.rom) [] with
  | .error ending => return ending
  | .ok host =>
      let typed ← IO.mkRef []
      let _reader ← IO.asTask (readKeys (← IO.getStdin) typed) .dedicated
      (← IO.getStdout).putStr "\x1b[2J"
      let deadline := (← IO.monoNanosNow) + 1000000000 / host.clock.ticks.toNat
      let verdict ← runTicks filter typed host.clock deadline host.announce
      for _ in List.range closingLines do
        IO.println ""
      return .ran verdict

end Chip8.CommandLine

open Chip8.CommandLine in
def main (args : List String) : IO UInt32 := do
  let filter := (← IO.getEnv "RUST_LOG").getD ""
  let ending ←
    match parse args with
    | .error misuse => do
        IO.eprintln ("error: " ++ misuse.message)
        pure (Ending.misused misuse)
    | .ok .help => do
        IO.print usage
        pure Ending.told
    | .ok .version => do
        IO.println versionLine
        pure Ending.told
    | .ok (.run options) => runSession filter options
  match ending.report? filter with
  | some line => IO.eprintln line
  | none => pure ()
  return ending.exitCode filter
