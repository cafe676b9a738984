import Chip8.Proofs.Machine.Peripheral

set_option autoImplicit false

namespace Chip8.Machine

def SameRun (peripheral : Peripheral) (m : Machine) (a b : List Operation) : Prop :=
  Avoids peripheral (m.stepsTaken a) ∨ Avoids peripheral (m.stepsTaken b) →
    m.stepsTaken a = m.stepsTaken b ∧ m.after a = m.after b

theorem same_run_symm (peripheral : Peripheral) (m : Machine) (a b : List Operation)
    (same : SameRun peripheral m a b) : SameRun peripheral m b a := by
  intro avoids
  obtain ⟨steps, left⟩ := same avoids.symm
  exact ⟨steps.symm, left.symm⟩

theorem same_run_trans (peripheral : Peripheral) (m : Machine) (a b c : List Operation)
    (first : SameRun peripheral m a b) (second : SameRun peripheral m b c) : SameRun peripheral m a c := by
  intro avoids
  cases avoids with
  | inl avoids =>
      obtain ⟨steps, left⟩ := first (.inl avoids)
      obtain ⟨moreSteps, moreLeft⟩ := second (.inl (steps ▸ avoids))
      exact ⟨steps.trans moreSteps, left.trans moreLeft⟩
  | inr avoids =>
      obtain ⟨moreSteps, moreLeft⟩ := second (.inr avoids)
      obtain ⟨steps, left⟩ := first (.inr (moreSteps ▸ avoids))
      exact ⟨steps.trans moreSteps, left.trans moreLeft⟩

theorem same_run_cons (peripheral : Peripheral) (m : Machine) (operation : Operation) (a b : List Operation)
    (same : SameRun peripheral (m.perform operation).machine a b) :
    SameRun peripheral m (operation :: a) (operation :: b) := by
  intro avoids
  simp only [stepsTaken, avoids_append, ← and_or_left] at avoids
  obtain ⟨steps, left⟩ := same avoids.2
  exact ⟨congrArg (m.stepOf operation ++ ·) steps, left⟩

theorem same_run_swap (peripheral : Peripheral) (m : Machine) (served other : Operation) (rest : List Operation)
    (serving : served.peripheral = some peripheral) (apart : other.peripheral ≠ some peripheral)
    (noReset : .reset ≠ other) : SameRun peripheral m (served :: other :: rest) (other :: served :: rest) := by
  intro avoids
  simp only [stepsTaken, serving_takes_no_step _ served peripheral serving, List.nil_append, avoids_append,
    avoids_passes m served other peripheral serving, ← and_or_left] at avoids ⊢
  obtain ⟨step, left⟩ := perform_passes m served other peripheral serving apart noReset.symm avoids.1
  rw [step, after_cons, after_cons, after_cons, after_cons, left]
  exact ⟨rfl, rfl⟩

theorem same_run_postpone (peripheral : Peripheral) (m : Machine) (served : Operation) (others rest : List Operation)
    (serving : served.peripheral = some peripheral)
    (apart : ∀ other ∈ others, other.peripheral ≠ some peripheral) (noReset : .reset ∉ others) :
    SameRun peripheral m (served :: (others ++ rest)) (others ++ served :: rest) := by
  induction others generalizing m with
  | nil => exact fun _ => ⟨rfl, rfl⟩
  | cons other others ih =>
      rw [List.forall_mem_cons] at apart
      rw [List.mem_cons, not_or] at noReset
      have swapped := same_run_swap peripheral m served other (others ++ rest) serving apart.1 noReset.1
      have later := ih (m.perform other).machine apart.2 noReset.2
      exact same_run_trans peripheral m _ _ _ swapped (same_run_cons peripheral m other _ _ later)

def serving (kind : Option Peripheral) (history : List Operation) : List Operation :=
  history.filter (·.peripheral = kind)

def sparing (peripheral : Peripheral) (history : List Operation) : List Operation :=
  history.filter (·.peripheral ≠ some peripheral)

def servedLast (peripheral : Peripheral) (history : List Operation) : List Operation :=
  sparing peripheral history ++ serving (some peripheral) history

theorem reset_spared (peripheral : Peripheral) (history : List Operation) :
    .reset ∈ sparing peripheral history ↔ .reset ∈ history := by
  simp [sparing, Operation.peripheral]

theorem reset_serves_none (history : List Operation) : .reset ∈ serving none history ↔ .reset ∈ history := by
  simp [serving, Operation.peripheral]

theorem same_run_served_last (peripheral : Peripheral) (m : Machine) (history : List Operation)
    (noReset : .reset ∉ history) : SameRun peripheral m history (servedLast peripheral history) := by
  induction history generalizing m with
  | nil => exact fun _ => ⟨rfl, rfl⟩
  | cons operation rest ih =>
      rw [List.mem_cons, not_or] at noReset
      have later := same_run_cons peripheral m operation _ _ (ih (m.perform operation).machine noReset.2)
      by_cases serves : operation.peripheral = some peripheral
      · have postponed := same_run_postpone peripheral m operation (sparing peripheral rest)
          (serving (some peripheral) rest) serves (by simp [sparing])
          (by rw [reset_spared]; exact noReset.2)
        have last := same_run_trans peripheral m _ _ _ later postponed
        simpa [servedLast, sparing, serving, serves] using last
      · simpa [servedLast, sparing, serving, serves] using later

theorem same_run_of_kinds (peripheral : Peripheral) (m : Machine) (a b : List Operation) (noReset : .reset ∉ a)
    (spared : sparing peripheral a = sparing peripheral b)
    (served : serving (some peripheral) a = serving (some peripheral) b) :
    SameRun peripheral m a b := by
  have noResetToo : .reset ∉ b := by rwa [← reset_spared peripheral b, ← spared, reset_spared]
  have first := same_run_served_last peripheral m a noReset
  have second := same_run_served_last peripheral m b noResetToo
  rw [servedLast, spared, served] at first
  exact same_run_trans peripheral m _ _ _ first (same_run_symm peripheral m _ _ second)

theorem one_kind_moves (peripheral : Peripheral) (m : Machine) (a b : List Operation) (noReset : .reset ∉ a)
    (spared : sparing peripheral a = sparing peripheral b)
    (served : serving (some peripheral) a = serving (some peripheral) b)
    (avoids : Avoids peripheral (m.stepsTaken a)) :
    m.stepsTaken b = m.stepsTaken a ∧ m.after b = m.after a := by
  obtain ⟨steps, left⟩ := same_run_of_kinds peripheral m a b noReset spared served (.inl avoids)
  exact ⟨steps.symm, left.symm⟩

theorem sparing_ticks_last (history : List Operation) :
    sparing .keypad (servedLast .timers history) = serving none history ++ serving (some .timers) history := by
  simp only [servedLast, sparing, serving, List.filter_append, List.filter_filter]
  congr 2
  · funext operation
    cases operation <;> rfl
  · funext operation
    cases operation <;> rfl

theorem serving_ticks_last (history : List Operation) :
    serving (some .keypad) (servedLast .timers history) = serving (some .keypad) history := by
  induction history with
  | nil => rfl
  | cons operation rest ih =>
      cases operation <;> simpa [servedLast, sparing, serving, Operation.peripheral] using ih

-- By way of two histories with the ticks at the end: from one to the other only the key events move.
theorem both_kinds_move (m : Machine) (a b : List Operation) (noReset : .reset ∉ a)
    (sameKinds : ∀ kind, serving kind a = serving kind b)
    (avoids : ∀ peripheral, Avoids peripheral (m.stepsTaken a)) :
    m.stepsTaken b = m.stepsTaken a ∧ m.after b = m.after a := by
  have noResetLast : .reset ∉ servedLast .timers a := by
    simp [servedLast, sparing, serving, noReset]
  have keyEvents : SameRun .keypad m (servedLast .timers a) (servedLast .timers b) := by
    apply same_run_of_kinds .keypad m _ _ noResetLast
    · rw [sparing_ticks_last, sparing_ticks_last, sameKinds, sameKinds]
    · rw [serving_ticks_last, serving_ticks_last, sameKinds]
  have noResetToo : .reset ∉ b := by rwa [← reset_serves_none, ← sameKinds, reset_serves_none]
  obtain ⟨firstSteps, firstLeft⟩ := same_run_served_last .timers m a noReset (.inl (avoids .timers))
  have lastAvoids : ∀ peripheral, Avoids peripheral (m.stepsTaken (servedLast .timers a)) := by
    rwa [firstSteps] at avoids
  obtain ⟨steps, left⟩ := keyEvents (.inl (lastAvoids .keypad))
  rw [steps] at lastAvoids
  obtain ⟨lastSteps, lastLeft⟩ := same_run_served_last .timers m b noResetToo (.inr (lastAvoids .timers))
  rw [lastSteps, ← steps, ← firstSteps, lastLeft, ← left, ← firstLeft]
  exact ⟨rfl, rfl⟩

theorem ticks_and_keys_pass_steps (m : Machine) :
    (∀ a b, .reset ∉ a → (∀ kind, serving kind a = serving kind b) →
      (∀ peripheral, Avoids peripheral (m.stepsTaken a)) →
      (∀ peripheral, Avoids peripheral (m.stepsTaken b)) ∧
      m.stepsTaken b = m.stepsTaken a ∧ m.after b = m.after a) ∧
    (∀ peripheral a b, .reset ∉ a → sparing peripheral a = sparing peripheral b →
      serving (some peripheral) a = serving (some peripheral) b → Avoids peripheral (m.stepsTaken a) →
      Avoids peripheral (m.stepsTaken b) ∧ m.stepsTaken b = m.stepsTaken a ∧ m.after b = m.after a) ∧
    (∀ served peripheral, served.peripheral = some peripheral →
      m.fetchedWord.bind Word.peripheral ≠ some peripheral →
      (m.perform served).machine.step.result = m.step.result ∧
      (m.perform served).machine.step.machine = (m.step.machine.perform served).machine) ∧
    (∀ n, (m.after (List.replicate n .tick)).delay.toNat = m.delay.toNat - n ∧
      (m.after (List.replicate n .tick)).sound.toNat = m.sound.toNat - n) := by
  refine ⟨?_, ?_, step_passes m, ticks_count_down m⟩
  · intro a b noReset sameKinds avoids
    obtain ⟨steps, left⟩ := both_kinds_move m a b noReset sameKinds avoids
    exact ⟨steps ▸ avoids, steps, left⟩
  · intro peripheral a b noReset spared served avoids
    obtain ⟨steps, left⟩ := one_kind_moves peripheral m a b noReset spared served avoids
    exact ⟨steps ▸ avoids, steps, left⟩

def patient : Machine :=
  { fresh .lenient (.ofSeed 0) with
    memory := ((Memory.fresh .lenient).load [0x60, 0x05, 0xF1, 0x0A, 0x00, 0xEE]).1, delay := 9 }

theorem ticks_around_wait :
    Avoids .timers (patient.stepsTaken [.tick, .key 7 true, .step, .tick, .step, .step]) ∧
      patient.after [.key 7 true, .step, .step, .step, .tick, .tick] =
        patient.after [.tick, .key 7 true, .step, .tick, .step, .step] ∧
      (patient.after [.key 7 true, .step, .step, .step, .tick, .tick]).delay = 7 ∧
      patient.after [.tick, .step, .tick, .key 7 true] = patient.after [.key 7 true, .step, .tick, .tick] := by
  obtain ⟨both, one, _⟩ := ticks_and_keys_pass_steps patient
  have sameKinds : ∀ kind, serving kind [.key 7 true, .step, .tick, .tick] =
      serving kind [.tick, .step, .tick, .key 7 true] := by
    intro kind
    cases kind with
    | none => rfl
    | some peripheral => cases peripheral <;> rfl
  have avoidsAll : ∀ peripheral, Avoids peripheral (patient.stepsTaken [.key 7 true, .step, .tick, .tick]) := by
    intro peripheral
    cases peripheral <;> decide
  have avoids : Avoids .timers (patient.stepsTaken [.tick, .key 7 true, .step, .tick, .step, .step]) := by decide
  obtain ⟨_, _, sameEnd⟩ := one .timers [.tick, .key 7 true, .step, .tick, .step, .step]
    [.key 7 true, .step, .step, .step, .tick, .tick] (by decide) rfl rfl avoids
  obtain ⟨_, _, otherEnd⟩ := both [.key 7 true, .step, .tick, .tick] [.tick, .step, .tick, .key 7 true]
    (by decide) sameKinds avoidsAll
  exact ⟨avoids, sameEnd, rfl, otherEnd⟩

end Chip8.Machine
