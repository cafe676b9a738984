import Chip8.Host.Scripted
import Chip8.Proofs.Host.Film
import Chip8.Proofs.Machine.Lenient

set_option autoImplicit false

namespace Chip8.Host

variable {ι δ : Type}

def lenient (h : Host ι δ) : Host ι δ :=
  { h with machine := h.machine.lenient }

def NoFailure (verdict : Option Verdict) : Prop :=
  ∀ failure, verdict ≠ some (.error failure)

theorem present_lenient [Display δ] (h : Host ι δ) : h.lenient.present = h.present.onState lenient := by
  cases drawn : Display.draw h.display h.machine.screen with
  | mk display shown =>
      have same : Display.draw h.lenient.display h.lenient.machine.screen = (display, shown) := drawn
      rw [present, present, same, drawn]
      cases shown <;> rfl

theorem step_succeeds (h : Host ι δ) (unfailed : NoFailure h.step.2) : h.machine.step.result = .ok () := by
  cases result : h.machine.step.result with
  | error failure =>
      exfalso
      apply unfailed failure
      rw [step, result]
  | ok => rfl

theorem step_lenient (h : Host ι δ) (unfailed : NoFailure h.step.2) : h.lenient.step = h.step.onState lenient := by
  have stepped := step_succeeds h unfailed
  have same : h.lenient.machine.step = ⟨.ok (), h.machine.step.machine.lenient, h.machine.step.records⟩ :=
    Machine.step_lenient h.machine stepped
  rw [step, step, same, stepped]
  rfl

theorem lenient_simulates [Display δ] : Simulation NoFailure (lenient : Host ι δ → Host ι δ) where
  going := by simp [NoFailure]
  config _ := rfl
  cycles _ := rfl
  input _ := rfl
  keypad _ := rfl
  note _ _ := rfl
  hear _ _ := rfl
  countdown _ := rfl
  ended h := Machine.at_program_end_lenient h.machine
  notEnded h unfailed := Machine.at_program_end_of_stepped h.machine (step_succeeds h unfailed)
  step := step_lenient
  present := present_lenient

theorem run_lenient [Input ι] [Display δ] (h final : Host ι δ) (limit : Nat) (stop : Stop)
    (stopped : h.run limit = (final, some (.ok stop))) :
    h.lenient.run limit = (final.lenient, some (.ok stop)) := by
  have unfailed : NoFailure (h.run limit).2 := by
    rw [stopped]
    simp [NoFailure]
  rw [lenient_simulates.run limit h unfailed, stopped]
  rfl

theorem frames_lenient [Input ι] [Display δ] (h final : Host ι δ) (limit : Nat) (stop : Stop)
    (stopped : h.run limit = (final, some (.ok stop))) :
    (h.lenient.filmed.run limit).1.display.frames = (h.filmed.run limit).1.display.frames := by
  have sameVerdict : (h.filmed.run limit).2 = (h.run limit).2 := by
    rw [run_filmed limit h]
    rfl
  have filmStopped : h.filmed.run limit = ((h.filmed.run limit).1, some (.ok stop)) := by
    rw [stopped] at sameVerdict
    exact Prod.ext rfl sameVerdict
  have film : h.lenient.filmed.run limit = ((h.filmed.run limit).1.lenient, some (.ok stop)) :=
    run_lenient h.filmed _ limit stop filmStopped
  rw [film]
  rfl

theorem strict_mode_only_adds_faults :
    (∀ (m : Machine) (history : List Machine.Operation) (observed : List (List UInt8 × Machine)),
      m.transcript history = .ok observed →
        m.lenient.transcript history = .ok (observed.map fun seen => (seen.1, seen.2.lenient))) ∧
    (∀ m : Machine, m.atProgramEnd = true → m.lenient.atProgramEnd = true) ∧
    (∀ (ι δ : Type) [Input ι] [Display δ] (h final : Host ι δ) (limit : Nat) (stop : Stop),
      h.run limit = (final, some (.ok stop)) →
        h.lenient.run limit = (final.lenient, some (.ok stop)) ∧
        (h.lenient.filmed.run limit).1.display.frames = (h.filmed.run limit).1.display.frames) :=
  ⟨Machine.transcript_lenient, Machine.at_program_end_lenient,
    fun _ _ _ _ h final limit stop stopped =>
      ⟨run_lenient h final limit stop stopped, frames_lenient h final limit stop stopped⟩⟩

def storing : Host Script Recorder where
  config := { stopAtProgramEnd := true }
  machine :=
    { Machine.fresh .strict (.ofSeed 0) with
      memory := ((Memory.fresh .strict).load [0xA3, 0x00, 0x60, 0x2A, 0xF0, 0x55]).1 }
  input := ⟨[.keys []]⟩
  display := {}

def storingHistory : List Machine.Operation :=
  [.step, .step, .key 7 true, .step, .tick, .read 0x300 1]

theorem storing_is_lenient_too :
    (∃ observed, storing.machine.transcript storingHistory = .ok observed ∧
      storing.machine.lenient.transcript storingHistory = .ok (observed.map fun seen => (seen.1, seen.2.lenient))) ∧
    (storing.run 1).2 = some (.ok .programEnd) ∧ (storing.lenient.run 1).2 = some (.ok .programEnd) := by
  have stopped : (storing.run 1).2 = some (.ok .programEnd) := rfl
  refine ⟨?_, stopped, ?_⟩
  · cases performed : storing.machine.transcript storingHistory with
    | error failure =>
        have succeeds : (storing.machine.transcript storingHistory).isOk = true := rfl
        rw [performed] at succeeds
        cases succeeds
    | ok observed => exact ⟨observed, rfl, strict_mode_only_adds_faults.1 _ _ observed performed⟩
  · have whole : storing.run 1 = ((storing.run 1).1, some (.ok .programEnd)) := Prod.ext rfl stopped
    rw [(strict_mode_only_adds_faults.2.2 Script Recorder storing _ 1 .programEnd whole).1]

end Chip8.Host
