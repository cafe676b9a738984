import Chip8.Proofs.Machine.Refit
import Chip8.Proofs.Machine.StepsTaken

set_option autoImplicit false

namespace Chip8.Machine

def serve (m : Machine) (timer : UInt8 → UInt8) (keys : Keypad → Keypad) : Machine :=
  { m with delay := timer m.delay, sound := timer m.sound, keypad := keys m.keypad }

theorem step_serve (m : Machine) (timer : UInt8 → UInt8) (keys : Keypad → Keypad)
    (timers : m.fetchedWord.bind Word.peripheral = some .timers → timer = id)
    (keypad : m.fetchedWord.bind Word.peripheral = some .keypad → keys = id) :
    (m.serve timer keys).step.result = m.step.result ∧
      (m.serve timer keys).step.machine = m.step.machine.serve timer keys := by
  have refitted : m.serve timer keys = m.refit timer keys id := rfl
  rw [refitted, step_refit m timer keys id timers keypad fun _ => rfl]
  exact ⟨rfl, rfl⟩

def Operation.peripheral : Operation → Option Peripheral
  | .tick => some .timers
  | .key _ _ | .releaseKeys => some .keypad
  | .step | .reset | .memory _ | .read _ _ => none

-- No step fetches a word that looks at the peripheral; a step that faults on what it fetched counts too.
def Avoids (peripheral : Peripheral) (steps : List StepTaken) : Prop :=
  ∀ taken ∈ steps, taken.word.bind Word.peripheral ≠ some peripheral

instance (peripheral : Peripheral) (steps : List StepTaken) : Decidable (Avoids peripheral steps) :=
  inferInstanceAs (Decidable (∀ taken ∈ steps, taken.word.bind Word.peripheral ≠ some peripheral))

theorem avoids_append (peripheral : Peripheral) (first second : List StepTaken) :
    Avoids peripheral (first ++ second) ↔ Avoids peripheral first ∧ Avoids peripheral second :=
  List.forall_mem_append

theorem avoids_step (m : Machine) (peripheral : Peripheral) :
    Avoids peripheral (m.stepOf .step) ↔ m.fetchedWord.bind Word.peripheral ≠ some peripheral :=
  List.forall_mem_singleton

theorem perform_serves (operation : Operation) (peripheral : Peripheral)
    (serving : operation.peripheral = some peripheral) :
    ∃ timer keys, (∀ m : Machine, (m.perform operation).machine = m.serve timer keys) ∧
      (peripheral ≠ .timers → timer = id) ∧ (peripheral ≠ .keypad → keys = id) := by
  cases operation with
  | tick =>
      cases serving
      exact ⟨fun timer => UInt8.ofNat (timer.toNat - 1), id, fun _ => rfl, fun other => absurd rfl other, fun _ => rfl⟩
  | key key down =>
      cases serving
      exact ⟨id, fun keypad => keypad.set key down, fun _ => rfl, fun _ => rfl, fun other => absurd rfl other⟩
  | releaseKeys =>
      cases serving
      exact ⟨id, fun _ => Keypad.released, fun _ => rfl, fun _ => rfl, fun other => absurd rfl other⟩
  | _ => cases serving

theorem serving_takes_no_step (m : Machine) (operation : Operation) (peripheral : Peripheral)
    (serving : operation.peripheral = some peripheral) : m.stepOf operation = [] := by
  cases operation with
  | step => cases serving
  | _ => rfl

theorem step_passes (m : Machine) (served : Operation) (peripheral : Peripheral)
    (serving : served.peripheral = some peripheral)
    (avoids : m.fetchedWord.bind Word.peripheral ≠ some peripheral) :
    (m.perform served).machine.step.result = m.step.result ∧
      (m.perform served).machine.step.machine = (m.step.machine.perform served).machine := by
  obtain ⟨timer, keys, serves, timers, keypad⟩ := perform_serves served peripheral serving
  rw [serves, serves]
  apply step_serve m timer keys
  · intro looks
    exact timers fun same => avoids (same ▸ looks)
  · intro looks
    exact keypad fun same => avoids (same ▸ looks)

theorem perform_passes (m : Machine) (served other : Operation) (peripheral : Peripheral)
    (serving : served.peripheral = some peripheral) (apart : other.peripheral ≠ some peripheral)
    (noReset : other ≠ .reset) (avoids : Avoids peripheral (m.stepOf other)) :
    (m.perform served).machine.stepOf other = m.stepOf other ∧
      ((m.perform served).machine.perform other).machine = ((m.perform other).machine.perform served).machine := by
  obtain ⟨timer, keys, serves, timers, keypad⟩ := perform_serves served peripheral serving
  rw [serves, serves]
  cases other with
  | step =>
      rw [avoids_step] at avoids
      obtain ⟨result, left⟩ := step_passes m served peripheral serving avoids
      rw [serves] at result
      rw [serves, serves] at left
      refine ⟨?_, left⟩
      rw [stepOf, result]
      rfl
  | tick =>
      obtain rfl := timers fun same => apart (congrArg some same.symm)
      exact ⟨rfl, rfl⟩
  | key key down =>
      obtain rfl := keypad fun same => apart (congrArg some same.symm)
      exact ⟨rfl, rfl⟩
  | releaseKeys =>
      obtain rfl := keypad fun same => apart (congrArg some same.symm)
      exact ⟨rfl, rfl⟩
  | reset => exact absurd rfl noReset
  | memory operation =>
      refine ⟨rfl, ?_⟩
      rw [perform, perform, change_memory_machine, change_memory_machine]
      rfl
  | read start count => exact ⟨rfl, rfl⟩

-- Whether a step avoids a peripheral can be seen on either side of what serves it: the fetch is the same.
theorem avoids_passes (m : Machine) (served other : Operation) (peripheral : Peripheral)
    (serving : served.peripheral = some peripheral) :
    Avoids peripheral ((m.perform served).machine.stepOf other) ↔ Avoids peripheral (m.stepOf other) := by
  obtain ⟨timer, keys, serves, _, _⟩ := perform_serves served peripheral serving
  rw [serves]
  cases other with
  | step =>
      rw [avoids_step, avoids_step]
      rfl
  | _ => rfl

theorem ticks_count_down (m : Machine) (n : Nat) :
    (m.after (List.replicate n .tick)).delay.toNat = m.delay.toNat - n ∧
      (m.after (List.replicate n .tick)).sound.toNat = m.sound.toNat - n := by
  induction n generalizing m with
  | zero => exact ⟨rfl, rfl⟩
  | succ n ih =>
      have down : ∀ timer : UInt8, (UInt8.ofNat (timer.toNat - 1)).toNat = timer.toNat - 1 := by
        intro timer
        have bound : timer.toNat - 1 < 256 := Nat.lt_of_le_of_lt (Nat.sub_le _ _) timer.toNat_lt
        exact UInt8.toNat_ofNat_of_lt' bound
      obtain ⟨delay, sound⟩ := ih m.tick
      rw [List.replicate_succ, after_cons]
      refine ⟨delay.trans ?_, sound.trans ?_⟩
      · rw [tick, down]
        omega
      · rw [tick, down]
        omega

end Chip8.Machine
