import Chip8.Proofs.Machine.Effect
import Chip8.Proofs.Machine.StepsTaken

set_option autoImplicit false

namespace Chip8.Machine

def Idles (m : Machine) : Operation → Prop
  | .step => ∀ key, m.keypad.keys.get key = false
  | .tick | .key _ _ | .releaseKeys => True
  | .reset | .memory _ | .read _ _ => False

instance (m : Machine) : (operation : Operation) → Decidable (m.Idles operation)
  | .step => inferInstanceAs (Decidable (∀ _, _))
  | .tick | .key _ _ | .releaseKeys => inferInstanceAs (Decidable True)
  | .reset | .memory _ | .read _ _ => inferInstanceAs (Decidable False)

def Awaits (m : Machine) (history : List Operation) : Prop :=
  m.Throughout Idles history

instance (m : Machine) (history : List Operation) : Decidable (m.Awaits history) :=
  inferInstanceAs (Decidable (m.Throughout Idles history))

def Operation.keyEvent : Operation → Option Keypad.Event
  | .key number down => some (.set number down)
  | .releaseKeys => some .releaseAll
  | .step | .tick | .reset | .memory _ | .read _ _ => none

def waited (m : Machine) (word : Word) (history : List Operation) : Machine :=
  { m with
    keypad := m.keypad.after (history.filterMap Operation.keyEvent)
    delay := UInt8.ofNat (m.delay.toNat - history.count .tick)
    sound := UInt8.ofNat (m.sound.toNat - history.count .tick)
    lastOpcode := if .step ∈ history then word else m.lastOpcode }

theorem step_waits (m : Machine) (word : Word) (fetched : m.fetchedWord = some word)
    (family : word.toNat / 4096 = 0xF) (low : word.toNat % 256 = 0x0A)
    (none : ∀ key, m.keypad.keys.get key = false) :
    m.step.result = .ok () ∧ m.step.machine = { m with lastOpcode := word } := by
  have first : (m.advance word).keypad.first = .none := (Keypad.first_none_iff m.keypad).mpr none
  apply step_of_spells m _ word _ fetched (.waitKey family low)
  simp only [execute, first]
  change ({ m with lastOpcode := word, pc := m.pc + 2 - 2 }, _) = _
  rw [UInt16.add_sub_cancel]

theorem step_takes_key (m : Machine) (word : Word) (fetched : m.fetchedWord = some word)
    (family : word.toNat / 4096 = 0xF) (low : word.toNat % 256 = 0x0A) (key : Nibble)
    (least : m.keypad.first = some key) :
    m.step.result = .ok () ∧
      m.step.machine =
        { m.setRegister (Word.x word) (UInt8.ofNat key.val) with pc := m.pc + 2, lastOpcode := word } := by
  have first : (m.advance word).keypad.first = some key := least
  apply step_of_spells m _ word _ fetched (.waitKey family low)
  simp only [execute, first]
  rfl

theorem run_down (timer : UInt8) (first second : Nat) :
    UInt8.ofNat ((UInt8.ofNat (timer.toNat - first)).toNat - second) = UInt8.ofNat (timer.toNat - (first + second)) := by
  have bound : timer.toNat - first < 256 := Nat.lt_of_le_of_lt (Nat.sub_le _ _) timer.toNat_lt
  rw [UInt8.toNat_ofNat_of_lt' bound, Nat.sub_sub]

theorem idle_waited (m : Machine) (word : Word) (fetched : m.fetchedWord = some word)
    (family : word.toNat / 4096 = 0xF) (low : word.toNat % 256 = 0x0A) (operation : Operation)
    (idles : m.Idles operation) : (m.perform operation).machine = m.waited word [operation] := by
  cases operation with
  | step =>
      have left : (m.perform .step).machine = { m with lastOpcode := word } :=
        (step_waits m word fetched family low idles).2
      rw [left]
      simp [waited, List.filterMap_cons, Operation.keyEvent, Keypad.after]
  | tick => simp [waited, List.filterMap_cons, Operation.keyEvent, Keypad.after, perform, tick]
  | key number down => simp [waited, Operation.keyEvent, Keypad.after, Keypad.take, perform, setKey]
  | releaseKeys => simp [waited, Operation.keyEvent, Keypad.after, Keypad.take, perform, releaseKeys]
  | reset | memory | read => cases idles

theorem waited_cons (m : Machine) (word : Word) (operation : Operation) (rest : List Operation) :
    (m.waited word [operation]).waited word rest = m.waited word (operation :: rest) := by
  have keys : (m.keypad.after ([operation].filterMap Operation.keyEvent)).after (rest.filterMap Operation.keyEvent) =
      m.keypad.after ((operation :: rest).filterMap Operation.keyEvent) := by
    rw [← Keypad.after_append, ← List.filterMap_append, List.singleton_append]
  have ticks : [operation].count .tick + rest.count .tick = (operation :: rest).count .tick := by
    rw [← List.count_append, List.singleton_append]
  have last : (if .step ∈ rest then word else if .step ∈ [operation] then word else m.lastOpcode) =
      if .step ∈ operation :: rest then word else m.lastOpcode := by
    by_cases later : .step ∈ rest <;> simp [later]
  simp only [waited, keys, last, run_down, ticks]

-- Each operation that idles leaves the word where it is, so the next one meets the same case.
theorem awaiting_waited (m : Machine) (word : Word) (fetched : m.fetchedWord = some word)
    (family : word.toNat / 4096 = 0xF) (low : word.toNat % 256 = 0x0A) (history : List Operation)
    (awaits : m.Awaits history) :
    m.after history = m.waited word history ∧ ∀ taken ∈ m.stepsTaken history, taken = ⟨m.pc, some word, .ok ()⟩ := by
  induction history generalizing m with
  | nil =>
      refine ⟨?_, fun taken member => absurd member List.not_mem_nil⟩
      simp [after, waited, Keypad.after]
  | cons operation rest ih =>
      obtain ⟨idles, later⟩ := awaits
      have left := idle_waited m word fetched family low operation idles
      rw [left] at later
      obtain ⟨waits, steps⟩ := ih (m.waited word [operation]) fetched later
      rw [after_cons, left, waits, waited_cons]
      refine ⟨rfl, ?_⟩
      intro taken member
      rw [stepsTaken, left, List.mem_append] at member
      cases member with
      | inl now =>
          obtain ⟨rfl, rfl⟩ := step_of_mem m operation taken now
          rw [fetched, (step_waits m word fetched family low idles).1]
      | inr afterwards => exact steps taken afterwards

theorem advance_skip (m : Machine) (word : Word) (condition : Bool) :
    (m.advance word).skipIf condition =
      { m with pc := if condition then m.pc + 4 else m.pc + 2, lastOpcode := word } := by
  cases condition with
  | true =>
      change { m with pc := m.pc + 2 + 2, lastOpcode := word } = _
      rw [UInt16.add_assoc]
      rfl
  | false => rfl

theorem step_looks (m : Machine) (word : Word) (down : Bool) (fetched : m.fetchedWord = some word)
    (family : word.toNat / 4096 = 0xE) (low : word.toNat % 256 = if down then 0x9E else 0xA1) :
    let found := m.keypad.keys.get (Nibble.low (m.register (Word.x word)).toNat)
    m.step.result = .ok () ∧
      m.step.machine = { m with pc := if found = down then m.pc + 4 else m.pc + 2, lastOpcode := word } := by
  intro found
  cases down with
  | true =>
      apply step_of_spells m _ word _ fetched (.skipKeyDown family low)
      change done ((m.advance word).skipIf found) = _
      rw [advance_skip]
      rfl
  | false =>
      apply step_of_spells m _ word _ fetched (.skipKeyUp family low)
      change done ((m.advance word).skipIf !found) = _
      rw [advance_skip]
      cases found <;> rfl

theorem skips_are_opposite (m other : Machine) (word otherWord : Word) (fetched : m.fetchedWord = some word)
    (family : word.toNat / 4096 = 0xE) (low : word.toNat % 256 = 0x9E) (otherFetched : other.fetchedWord = some otherWord)
    (otherFamily : otherWord.toNat / 4096 = 0xE) (otherLow : otherWord.toNat % 256 = 0xA1)
    (keypad : other.keypad = m.keypad) (register : other.register (Word.x otherWord) = m.register (Word.x word)) :
    if m.keypad.keys.get (Nibble.low (m.register (Word.x word)).toNat) = true then
      m.step.machine.pc = m.pc + 4 ∧ other.step.machine.pc = other.pc + 2
    else m.step.machine.pc = m.pc + 2 ∧ other.step.machine.pc = other.pc + 4 := by
  obtain ⟨_, left⟩ := step_looks m word true fetched family low
  obtain ⟨_, otherLeft⟩ := step_looks other otherWord false otherFetched otherFamily otherLow
  rw [keypad, register] at otherLeft
  rw [left, otherLeft]
  by_cases found : m.keypad.keys.get (Nibble.low (m.register (Word.x word)).toNat) = true
  · simp [found]
  · simp [found]

theorem keys_are_latched_and_awaited :
    (∀ events : List Keypad.Event,
      let keypad := Keypad.released.after events
      (∀ key : UInt8, keypad.isPressed key = true ↔ Keypad.PutDown events (Nibble.low key.toNat)) ∧
      (∀ key, keypad.first = some key ↔
        Keypad.PutDown events key ∧ ∀ other, other < key → ¬ Keypad.PutDown events other) ∧
      (keypad.first = none ↔ ∀ key, ¬ Keypad.PutDown events key)) ∧
    (∀ (m : Machine) (word : Word), m.fetchedWord = some word → word.toNat / 4096 = 0xF → word.toNat % 256 = 0x0A →
      ∀ history, m.Awaits history →
        (∀ taken ∈ m.stepsTaken history, taken = ⟨m.pc, some word, .ok ()⟩) ∧
        m.after history = m.waited word history ∧
        ∀ pressed, (m.after history).keypad.keys.get pressed = true →
          ∃ key, (m.after history).keypad.keys.get key = true ∧
            (∀ other, other < key → (m.after history).keypad.keys.get other = false) ∧
            (m.after history).step.result = .ok () ∧
            (m.after history).step.machine =
              { (m.after history).setRegister (Word.x word) (UInt8.ofNat key.val) with
                pc := m.pc + 2
                lastOpcode := word }) ∧
    (∀ (m : Machine) (word : Word) (down : Bool), m.fetchedWord = some word → word.toNat / 4096 = 0xE →
      word.toNat % 256 = (if down then 0x9E else 0xA1) →
        let found := m.keypad.keys.get (Nibble.low (m.register (Word.x word)).toNat)
        m.step.result = .ok () ∧
          m.step.machine = { m with pc := if found = down then m.pc + 4 else m.pc + 2, lastOpcode := word }) ∧
    (∀ (m other : Machine) (word otherWord : Word), m.fetchedWord = some word → word.toNat / 4096 = 0xE →
      word.toNat % 256 = 0x9E → other.fetchedWord = some otherWord → otherWord.toNat / 4096 = 0xE →
      otherWord.toNat % 256 = 0xA1 → other.keypad = m.keypad →
      other.register (Word.x otherWord) = m.register (Word.x word) →
        if m.keypad.keys.get (Nibble.low (m.register (Word.x word)).toNat) = true then
          m.step.machine.pc = m.pc + 4 ∧ other.step.machine.pc = other.pc + 2
        else m.step.machine.pc = m.pc + 2 ∧ other.step.machine.pc = other.pc + 4) := by
  refine ⟨?_, ?_, step_looks, skips_are_opposite⟩
  · intro events keypad
    have down := Keypad.get_after_iff events
    have up : ∀ key, keypad.keys.get key = false ↔ ¬ Keypad.PutDown events key := by
      intro key
      rw [← down, Bool.not_eq_true]
    refine ⟨fun key => down (Nibble.low key.toNat), ?_, ?_⟩
    · intro key
      rw [Keypad.first_some_iff, down]
      simp only [up]
    · rw [Keypad.first_none_iff]
      simp only [up]
  · intro m word fetched family low history awaits
    obtain ⟨waits, steps⟩ := awaiting_waited m word fetched family low history awaits
    refine ⟨steps, waits, ?_⟩
    intro pressed down
    cases least : (m.after history).keypad.first with
    | none => simp [(Keypad.first_none_iff _).mp least pressed] at down
    | some key =>
        obtain ⟨held, before⟩ := (Keypad.first_some_iff _ key).mp least
        have same : (m.after history).fetchedWord = some word ∧ (m.after history).pc = m.pc := by
          rw [waits]
          exact ⟨fetched, rfl⟩
        have takes := step_takes_key (m.after history) word same.1 family low key least
        rw [same.2] at takes
        exact ⟨key, held, before, takes⟩

-- The word that awaits a key stands in the last two cells, behind a program counter about to wrap around.
def awaiting : Machine :=
  { fresh .lenient (.ofSeed 0) with
    memory := ((Memory.fresh .lenient).write 0xFFE [0xF3, 0x0A]).1
    pc := 0xFFFE
    delay := 1 }

def idling : List Operation :=
  [.step, .tick, .key 9 true, .key 9 false, .key 200 true, .step, .tick, .step, .key 7 true, .key 2 true]

def looking : Machine :=
  { fresh .strict (.ofSeed 0) with
    memory := ((Memory.fresh .strict).load [0xE3, 0x9E, 0x00, 0x00, 0xE3, 0xA1]).1
    registers := (Bank.fill 0).set (Nibble.low 3) 0x12
    keypad := Keypad.holding [2] }

theorem key_two_is_latched_and_awaited :
    (Keypad.released.after [.set 2 true, .releaseAll, .set 18 true]).isPressed 0x12 = false ∧
      awaiting.Awaits idling ∧ (awaiting.after idling).pc = 0xFFFE ∧ (awaiting.after idling).delay = 0 ∧
      (awaiting.after idling).step.machine.register (Nibble.low 3) = 2 ∧
      (awaiting.after idling).step.machine.pc = 0 ∧
      looking.step.machine.pc = 0x204 ∧ looking.step.machine.step.machine.pc = 0x206 := by
  obtain ⟨latched, awaited, _, opposite⟩ := keys_are_latched_and_awaited
  obtain ⟨down, _, _⟩ := latched [.set 2 true, .releaseAll, .set 18 true]
  have up : ¬ Keypad.PutDown [.set 2 true, .releaseAll, .set 18 true] (Nibble.low 0x12) := by decide
  have idles : awaiting.Awaits idling := by decide +kernel
  obtain ⟨_, waits, takes⟩ := awaited awaiting 0xF30A (by decide +kernel) rfl rfl idling idles
  obtain ⟨key, held, before, _, left⟩ := takes (Nibble.low 7) (by decide +kernel)
  have least : ∀ key, (awaiting.after idling).keypad.keys.get key = true →
      (∀ other, other < key → (awaiting.after idling).keypad.keys.get other = false) → key = Nibble.low 2 := by
    decide +kernel
  obtain rfl := least key held before
  have found : looking.keypad.keys.get (Nibble.low (looking.register (Word.x 0xE39E)).toNat) = true := by decide
  have decisions := opposite looking looking.step.machine 0xE39E 0xE3A1 (by decide +kernel) rfl rfl (by decide +kernel)
    rfl rfl (by decide +kernel) (by decide +kernel)
  rw [if_pos found] at decisions
  obtain ⟨skips, stays⟩ := decisions
  have landed : looking.step.machine.pc = 0x204 := skips
  rw [landed] at stays
  refine ⟨Bool.eq_false_iff.mpr fun pressed => up ((down 0x12).mp pressed), idles, ?_, ?_, ?_, ?_, landed, stays⟩
  · rw [waits]
    rfl
  · rw [waits]
    rfl
  · rw [left]
    exact Bank.get_set_self _ _ _
  · rw [left]
    rfl

end Chip8.Machine
