import Chip8.Host.Clock
import Chip8.Host.Device
import Chip8.Machine.Step

set_option autoImplicit false

namespace Chip8

inductive Stop where
  | quit
  | cycleLimit
  | programEnd
deriving DecidableEq, Repr

def Stop.name : Stop → String
  | quit => "Quit"
  | cycleLimit => "CycleLimit"
  | programEnd => "ProgramEnd"

abbrev Verdict := Except Failure Stop

abbrev Turn (σ : Type) := σ × Option Verdict

@[inline]
def Turn.andThen {σ : Type} (turn : Turn σ) (next : σ → Turn σ) : Turn σ :=
  match turn with
  | (going, none) => next going
  | ended => ended

namespace Host

structure Config where
  instructionsPerSecond : UInt32 := 700
  timerHz : UInt32 := 60
  -- Sleep between ticks; results do not depend on it.
  realtime : Bool := true
  maxCycles : Option Nat := none
  stopAtProgramEnd : Bool := false
deriving DecidableEq, Repr

inductive Record where
  | machine (record : Machine.Record)
  | input (entry : LogEntry)
  | running (instructionsPerSecond timerHz : UInt32)
  | stopped (cycles : Nat) (reason : Stop)
deriving DecidableEq

def Record.entry : Record → LogEntry
  | machine record => record.entry
  | input entry => entry
  | running instructionsPerSecond timerHz =>
      ⟨.info, "running at " ++ toString instructionsPerSecond.toNat ++ " instructions/s, " ++
        toString timerHz.toNat ++ " ticks/s"⟩
  | stopped cycles reason => ⟨.debug, "stopped after " ++ toString cycles ++ " cycles: " ++ reason.name⟩

end Host

structure Host (ι δ : Type) where
  config : Host.Config
  machine : Machine
  input : ι
  display : δ
  -- Steps that did not fault, in all calls so far. Counted in 64 bits they are the same until `2 ^ 64` of them.
  cycles : Nat := 0
  journal : Array Host.Record := #[]

namespace Host

variable {ι δ : Type}

def note (h : Host ι δ) (record : Record) : Host ι δ :=
  { h with journal := h.journal.push record }

def hear (h : Host ι δ) (poll : Poll ι) : Host ι δ :=
  { h with
    input := poll.input
    machine := { h.machine with keypad := poll.keypad }
    journal := h.journal ++ poll.entries.map Record.input }

def listen [Input ι] (h : Host ι δ) : Turn (Host ι δ) :=
  let poll := Input.poll h.input h.machine.keypad
  let heard := h.hear poll
  match poll.control with
  | .ok .proceed => (heard, none)
  | .ok .quit => (heard.note (.stopped heard.cycles .quit), some (.ok .quit))
  | .error error => (heard, some (.error (.io error)))

def present [Display δ] (h : Host ι δ) : Turn (Host ι δ) :=
  let (display, shown) := Display.draw h.display h.machine.screen
  match shown with
  | .ok _ => ({ h with display := display }, none)
  | .error error => ({ h with display := display }, some (.error (.io error)))

def finish [Display δ] (h : Host ι δ) (reason : Stop) : Turn (Host ι δ) :=
  h.present.andThen fun shown => (shown.note (.stopped shown.cycles reason), some (.ok reason))

def limitReached (h : Host ι δ) : Bool :=
  match h.config.maxCycles with
  | some limit => limit ≤ h.cycles
  | none => false

theorem limit_reached_counted (h : Host ι δ) (limit : UInt64) (most : h.config.maxCycles = some limit.toNat)
    (fits : h.cycles < UInt64.size) : h.limitReached = decide (limit ≤ UInt64.ofNat h.cycles) := by
  have count : (UInt64.ofNat h.cycles).toNat = h.cycles := UInt64.toNat_ofNat_of_lt' fits
  rw [limitReached, most]
  simp only [UInt64.le_iff_toNat_le, count]

def step (h : Host ι δ) : Turn (Host ι δ) :=
  let outcome := h.machine.step
  let stepped := { h with
    machine := outcome.machine
    journal := h.journal ++ outcome.records.map Record.machine }
  match outcome.result with
  | .ok _ => ({ stepped with cycles := h.cycles + 1 }, none)
  | .error failure => (stepped, some (.error failure))

def attempt [Display δ] (h : Host ι δ) : Turn (Host ι δ) :=
  if h.limitReached then h.finish .cycleLimit
  else if h.config.stopAtProgramEnd && h.machine.atProgramEnd then h.finish .programEnd
  else h.step

def batch [Display δ] : Nat → Host ι δ → Turn (Host ι δ)
  | 0, h => (h, none)
  | n + 1, h => h.attempt.andThen fun going => batch n going

def tick [Input ι] [Display δ] (n : Nat) (h : Host ι δ) : Turn (Host ι δ) :=
  h.listen.andThen fun heard => (batch n heard).andThen fun ran => present { ran with machine := ran.machine.tick }

-- At most so many ticks, each with the batch of its clock. No verdict means that they are used up.
def ticks [Input ι] [Display δ] : Nat → Clock → Host ι δ → Turn (Host ι δ)
  | 0, _, h => (h, none)
  | n + 1, clock, h => (h.tick clock.batch.toNat).andThen fun going => ticks n clock.next going

def clock (h : Host ι δ) : Clock :=
  Clock.start h.config.instructionsPerSecond h.config.timerHz

def announce (h : Host ι δ) : Host ι δ :=
  h.note (.running h.config.instructionsPerSecond h.config.timerHz)

def run [Input ι] [Display δ] (limit : Nat) (h : Host ι δ) : Turn (Host ι δ) :=
  ticks limit h.clock h.announce

end Host

end Chip8
