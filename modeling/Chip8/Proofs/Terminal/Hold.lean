import Chip8.Proofs.Keypad.Latest
import Chip8.Terminal.Keyboard

set_option autoImplicit false

namespace Chip8.Terminal

def Event.isEscape : Event → Bool
  | .escape _ => true
  | .character _ _ | .named _ _ | .resize | .mouse _ => false

def Event.Types (key : Nibble) : Event → Prop
  | .character c _ => keyCharacters[key.val]? = some c.toLower
  | .escape _ | .named _ _ | .resize | .mouse _ => False

instance (key : Nibble) : (event : Event) → Decidable (event.Types key)
  | .character _ _ => inferInstanceAs (Decidable (_ = _))
  | .escape _ | .named _ _ | .resize | .mouse _ => inferInstanceAs (Decidable False)

def Typed (events : List Event) (key : Nibble) : Prop :=
  ∃ event ∈ events, event.Types key

instance (events : List Event) (key : Nibble) : Decidable (Typed events key) :=
  inferInstanceAs (Decidable (∃ event ∈ events, _))

def EscapesLast (events : List Event) : Prop :=
  ∀ event ∈ events.dropLast, event.isEscape = false

instance (events : List Event) : Decidable (EscapesLast events) :=
  inferInstanceAs (Decidable (∀ event ∈ events.dropLast, _))

theorem key_of_iff (c : Char) (key : Nibble) : keyOf c = some key ↔ keyCharacters[key.val]? = some c.toLower := by
  have distinct : keyCharacters.Nodup := by decide
  rw [keyOf, Option.map_eq_some_iff, List.getElem?_eq_some_iff]
  constructor
  · rintro ⟨i, found, rfl⟩
    obtain ⟨inside, value, _⟩ := List.idxOf?_eq_some_iff.mp found
    have position : (Nibble.low i).val = i := Nat.mod_eq_of_lt inside
    simp only [position]
    exact ⟨inside, value⟩
  · rintro ⟨inside, value⟩
    refine ⟨key.val, List.idxOf?_eq_some_iff.mpr ⟨inside, value, ?_⟩, Nibble.low_val key⟩
    intro j earlier same
    have equal := (List.getElem_inj distinct).mp (same.trans value.symm)
    omega

theorem typed_cons (event : Event) (rest : List Event) (key : Nibble) :
    Typed (event :: rest) key ↔ event.Types key ∨ Typed rest key := by
  simp only [Typed, List.mem_cons, exists_eq_or_imp]

theorem escapes_last_cons (event : Event) (rest : List Event) (last : EscapesLast (event :: rest)) :
    EscapesLast rest ∧ (event.isEscape = true → rest = []) := by
  cases rest with
  | nil => exact ⟨fun _ member => absurd member List.not_mem_nil, fun _ => rfl⟩
  | cons next later =>
      refine ⟨fun other member => last other (List.mem_cons_of_mem event member), ?_⟩
      intro escape
      simp [last event List.mem_cons_self] at escape

-- A key is armed anew by each of its characters, and left as it was by all else.
theorem read_events_hold (reading : Reading) (events : List Event) (last : EscapesLast events) (key : Nibble) :
    (readEvents reading events).hold.get key = if Typed events key then holdPolls else reading.hold.get key := by
  induction events generalizing reading with
  | nil => simp [readEvents, Typed]
  | cons event rest ih =>
      obtain ⟨later, alone⟩ := escapes_last_cons event rest last
      simp only [typed_cons]
      cases event with
      | escape modifiers =>
          obtain rfl := alone rfl
          simp [readEvents, Typed, Event.Types]
      | character c modifiers =>
          simp only [Event.Types, ← key_of_iff]
          rw [readEvents]
          cases mapped : keyOf c with
          | none => simp [ih _ later]
          | some other =>
              rw [ih _ later, Bank.get_set]
              by_cases here : other = key <;> simp [here]
      | named | resize | mouse => simp [readEvents, ih _ later, Event.Types]

theorem read_events_control (reading : Reading) (events : List Event) :
    (readEvents reading events).control = if events.any Event.isEscape then .quit else reading.control := by
  induction events generalizing reading with
  | nil => rfl
  | cons event rest ih =>
      cases event with
      | escape modifiers => simp [readEvents, Event.isEscape]
      | character c modifiers =>
          rw [readEvents]
          cases keyOf c <;> simp [ih, Event.isEscape]
      | named | resize | mouse => simp [readEvents, ih, Event.isEscape]

theorem read_events_unread (reading : Reading) (events : List Event) :
    (readEvents reading events).unread =
      if events.any Event.isEscape then (events.dropWhile fun event => !event.isEscape).tail else reading.unread := by
  induction events generalizing reading with
  | nil => rfl
  | cons event rest ih =>
      cases event with
      | escape modifiers => simp [readEvents, Event.isEscape]
      | character c modifiers =>
          rw [readEvents]
          cases keyOf c <;> simp [ih, Event.isEscape]
      | named | resize | mouse => simp [readEvents, ih, Event.isEscape]

theorem behind_last_escape (events : List Event) (last : EscapesLast events) :
    (events.dropWhile fun event => !event.isEscape).tail = [] := by
  induction events with
  | nil => rfl
  | cons event rest ih =>
      obtain ⟨later, alone⟩ := escapes_last_cons event rest last
      by_cases escape : event.isEscape = true
      · obtain rfl := alone escape
        simp [escape]
      · simp [escape, ih later]

theorem set_held_get (hold : Bank Nat) (keypad : Keypad) (next key : Nibble) :
    (setHeld hold keypad next).keys.get key =
      if next = key then decide (0 < hold.get key) else keypad.keys.get key := by
  have byte : (UInt8.ofNat next.val).toNat = next.val := UInt8.toNat_ofNat_of_lt' (Nat.lt_trans next.isLt (by decide))
  rw [setHeld, Keypad.get_set, byte]
  by_cases same : next = key
  · rw [same, if_pos rfl, if_pos rfl]
  · rw [if_neg same, if_neg fun values => same (Fin.ext values)]

theorem set_all_held_get (hold : Bank Nat) (keypad : Keypad) (keys : List Nibble) (key : Nibble)
    (set : key ∈ keys ∨ keypad.keys.get key = decide (0 < hold.get key)) :
    (keys.foldl (setHeld hold) keypad).keys.get key = decide (0 < hold.get key) := by
  induction keys generalizing keypad with
  | nil => exact set.resolve_left List.not_mem_nil
  | cons next rest ih =>
      rw [List.foldl_cons]
      apply ih
      rw [set_held_get]
      by_cases same : next = key
      · exact Or.inr (if_pos same)
      · rw [if_neg same]
        cases set with
        | inl member => exact Or.inl ((List.mem_cons.mp member).resolve_left (Ne.symm same))
        | inr before => exact Or.inr before

theorem report_get (hold : Bank Nat) (keypad : Keypad) (key : Nibble) :
    (report hold keypad).keys.get key = decide (0 < hold.get key) :=
  set_all_held_get hold keypad Nibble.all key (Or.inl (Nibble.mem_all key))

namespace Keyboard

def before (keyboard : Keyboard) (keypads : Nat → Keypad) : Nat → Keyboard
  | 0 => keyboard
  | p + 1 => ((keyboard.before keypads p).poll (keypads p)).input

def pollAt (keyboard : Keyboard) (keypads : Nat → Keypad) (p : Nat) : Poll Keyboard :=
  (keyboard.before keypads p).poll (keypads p)

def armed (keyboard : Keyboard) (key : Nibble) : Nat :=
  if Typed keyboard.queue key then holdPolls else keyboard.hold.get key

theorem poll_reports (keyboard : Keyboard) (keypad : Keypad) (last : EscapesLast keyboard.queue)
    (key : Nibble) :
    (keyboard.poll keypad).keypad.keys.get key = decide (0 < keyboard.armed key) ∧
      (keyboard.poll keypad).input.hold.get key = keyboard.armed key - 1 := by
  have read := read_events_hold ⟨keyboard.hold, .proceed, [], []⟩ keyboard.queue last key
  constructor
  · change (report _ keypad).keys.get key = _
    rw [report_get, read]
    rfl
  · change (Bank.map _ _).get key = _
    rw [Bank.get_map, read]
    rfl

theorem before_waiting (keyboard : Keyboard) (keypads : Nat → Keypad) (p : Nat) :
    (keyboard.before keypads p).waiting = keyboard.waiting.drop p := by
  induction p with
  | zero => rfl
  | succ p ih =>
      change (keyboard.before keypads p).waiting.tail = _
      rw [ih, List.tail_drop]

theorem poll_leaves_nothing (keyboard : Keyboard) (keypad : Keypad) (last : EscapesLast keyboard.queue) :
    (keyboard.poll keypad).input.unread = [] := by
  change (readEvents _ keyboard.queue).unread = []
  rw [read_events_unread, behind_last_escape _ last]
  exact ite_self []

-- As long as nothing stands behind an escape, each poll finds just what came in before it.
theorem queue_at (waiting : List (List Event)) (last : ∀ p, EscapesLast (waiting.getD p [])) (keypads : Nat → Keypad)
    (p : Nat) : (Keyboard.before { waiting := waiting } keypads p).queue = waiting.getD p [] := by
  have coming : ∀ p, (Keyboard.before { waiting := waiting } keypads p).waiting.headD [] = waiting.getD p [] := by
    intro p
    rw [before_waiting, List.headD_eq_head?_getD, List.head?_drop, List.getD_eq_getElem?_getD]
  induction p with
  | zero => exact coming 0
  | succ p ih =>
      have nothing : (Keyboard.before { waiting := waiting } keypads (p + 1)).unread = [] := by
        apply poll_leaves_nothing
        rw [ih]
        exact last p
      rw [queue, nothing, coming (p + 1), List.nil_append]

theorem armed_start (waiting : List (List Event)) (last : ∀ p, EscapesLast (waiting.getD p []))
    (keypads : Nat → Keypad) (key : Nibble) :
    (Keyboard.before { waiting := waiting } keypads 0).armed key =
      if Typed (waiting.getD 0 []) key then holdPolls else 0 := by
  have none : (Bank.fill 0).get key = 0 := Bank.get_fill 0 key
  rw [armed, queue_at waiting last]
  change (if _ then _ else (Bank.fill 0).get key) = _
  rw [none]

theorem armed_next (waiting : List (List Event)) (last : ∀ p, EscapesLast (waiting.getD p []))
    (keypads : Nat → Keypad) (p : Nat) (key : Nibble) :
    (Keyboard.before { waiting := waiting } keypads (p + 1)).armed key =
      if Typed (waiting.getD (p + 1) []) key then holdPolls
      else (Keyboard.before { waiting := waiting } keypads p).armed key - 1 := by
  have here : EscapesLast (Keyboard.before { waiting := waiting } keypads p).queue := by
    rw [queue_at waiting last]
    exact last p
  have left := (poll_reports (Keyboard.before { waiting := waiting } keypads p) (keypads p) here key).2
  rw [armed, queue_at waiting last]
  change (if _ then _ else ((Keyboard.before { waiting := waiting } keypads p).poll (keypads p)).input.hold.get key) = _
  rw [left]

-- The key was typed, at most 5 - i polls before poll p.
def Lately (waiting : List (List Event)) (p i : Nat) (key : Nibble) : Prop :=
  ∃ q, q ≤ p ∧ p + i ≤ q + 5 ∧ Typed (waiting.getD q []) key

theorem lately_of_typed (waiting : List (List Event)) (p i : Nat) (key : Nibble)
    (typed : Typed (waiting.getD p []) key) : i < holdPolls ↔ Lately waiting p i key := by
  rw [holdPolls]
  constructor
  · intro held
    exact ⟨p, Nat.le_refl p, by omega, typed⟩
  · intro lately
    obtain ⟨q, earlier, near, _⟩ := lately
    omega

theorem lately_next (waiting : List (List Event)) (p i : Nat) (key : Nibble)
    (untyped : ¬ Typed (waiting.getD (p + 1) []) key) :
    Lately waiting p (i + 1) key ↔ Lately waiting (p + 1) i key := by
  constructor
  · intro lately
    obtain ⟨q, earlier, near, typed⟩ := lately
    exact ⟨q, Nat.le_succ_of_le earlier, by omega, typed⟩
  · intro lately
    obtain ⟨q, earlier, near, typed⟩ := lately
    have apart : q ≠ p + 1 := fun same => untyped (same ▸ typed)
    exact ⟨q, by omega, by omega, typed⟩

-- By induction on the poll: the polls that a key stays down for count down from the last one that armed it.
theorem armed_iff (waiting : List (List Event)) (last : ∀ p, EscapesLast (waiting.getD p [])) (keypads : Nat → Keypad)
    (p : Nat) (key : Nibble) (i : Nat) :
    i < (Keyboard.before { waiting := waiting } keypads p).armed key ↔ Lately waiting p i key := by
  induction p generalizing i with
  | zero =>
      rw [armed_start waiting last]
      by_cases typed : Typed (waiting.getD 0 []) key
      · rw [if_pos typed]
        exact lately_of_typed waiting 0 i key typed
      · rw [if_neg typed]
        constructor
        · exact fun held => absurd held (Nat.not_lt_zero i)
        · intro lately
          obtain ⟨q, first, _, before⟩ := lately
          obtain rfl := Nat.le_zero.mp first
          exact absurd before typed
  | succ p ih =>
      rw [armed_next waiting last]
      by_cases typed : Typed (waiting.getD (p + 1) []) key
      · rw [if_pos typed]
        exact lately_of_typed waiting (p + 1) i key typed
      · rw [if_neg typed, Nat.lt_sub_iff_add_lt, ih (i + 1)]
        exact lately_next waiting p i key typed

end Keyboard

theorem escapes_last_at (waiting : List (List Event)) (last : ∀ events ∈ waiting, EscapesLast events) (p : Nat) :
    EscapesLast (waiting.getD p []) := by
  rw [List.getD_eq_getElem?_getD]
  cases found : waiting[p]? with
  | none => exact fun _ member => absurd member List.not_mem_nil
  | some events => exact last events (List.mem_of_getElem? found)

theorem keys_stay_down_for_six_polls (waiting : List (List Event)) (last : ∀ events ∈ waiting, EscapesLast events)
    (keypads : Nat → Keypad) (p : Nat) :
    let answer := Keyboard.pollAt { waiting := waiting } keypads p
    (∀ key, answer.keypad.keys.get key = true ↔
      ∃ q, q ≤ p ∧ p ≤ q + 5 ∧ ∃ event ∈ waiting.getD q [], event.Types key) ∧
    answer.control = .ok (if (waiting.getD p []).any Event.isEscape then .quit else .proceed) := by
  intro answer
  have each := escapes_last_at waiting last
  have queued := Keyboard.queue_at waiting each keypads p
  constructor
  · intro key
    have here : EscapesLast (Keyboard.before { waiting := waiting } keypads p).queue := by
      rw [queued]
      exact each p
    have reports := (Keyboard.poll_reports _ (keypads p) here key).1
    rw [show answer.keypad.keys.get key = _ from reports, decide_eq_true_iff]
    exact Keyboard.armed_iff waiting each keypads p key 0
  · change Except.ok (readEvents _ _).control = _
    rw [read_events_control, queued]

def typing : List (List Event) :=
  [[.mouse ⟨.scrollUp, 4, 4, {}⟩, .character 'X' { shift := true, alt := true }, .character 'x', .escape], [],
    [.character 'p', .named .home, .resize]]

theorem typed_key_comes_up :
    (∀ events ∈ typing, EscapesLast events) ∧
      (Keyboard.pollAt { waiting := typing } (fun _ => Keypad.holding [9]) 0).control = .ok .quit ∧
      (Keyboard.pollAt { waiting := typing } (fun _ => Keypad.holding [9]) 0).keypad.keys.get (Nibble.low 9) = false ∧
      (Keyboard.pollAt { waiting := typing } (fun _ => Keypad.holding [9]) 5).keypad.keys.get (Nibble.low 0) = true ∧
      (Keyboard.pollAt { waiting := typing } (fun _ => Keypad.holding [9]) 6).keypad.keys.get (Nibble.low 0) = false := by
  have last : ∀ events ∈ typing, EscapesLast events := by decide
  have answers := keys_stay_down_for_six_polls typing last fun _ => Keypad.holding [9]
  have typed : ∃ event ∈ typing.getD 0 [], event.Types (Nibble.low 0) := by decide
  have noOther : ¬ ∃ event ∈ typing.getD 0 [], event.Types (Nibble.low 9) := by decide
  have noLater : ∀ q, q ≤ 6 → 6 ≤ q + 5 → ¬ ∃ event ∈ typing.getD q [], event.Types (Nibble.low 0) := by decide
  refine ⟨last, (answers 0).2, ?_, ((answers 5).1 _).mpr ⟨0, by decide, by decide, typed⟩, ?_⟩
  · rw [Bool.eq_false_iff]
    intro down
    obtain ⟨q, first, _, other⟩ := ((answers 0).1 _).mp down
    obtain rfl := Nat.le_zero.mp first
    exact noOther other
  · rw [Bool.eq_false_iff]
    intro down
    obtain ⟨q, earlier, near, later⟩ := ((answers 6).1 _).mp down
    exact noLater q earlier near later

end Chip8.Terminal
