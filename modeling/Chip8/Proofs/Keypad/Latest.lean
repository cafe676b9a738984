import Mathlib.Data.List.Induction
import Chip8.Keypad

set_option autoImplicit false

namespace Chip8.Keypad

inductive Event where
  | set (key : UInt8) (down : Bool)
  | releaseAll
deriving DecidableEq, Repr

def take (keypad : Keypad) : Event → Keypad
  | .set key down => keypad.set key down
  | .releaseAll => released

def after (keypad : Keypad) (events : List Event) : Keypad :=
  events.foldl take keypad

def Event.sets (key : Nibble) : Event → Bool
  | .set other _ => other.toNat == key.val
  | .releaseAll => false

def sinceRelease (events : List Event) : List Event :=
  events.reverse.takeWhile (· ≠ .releaseAll)

def PutDown (events : List Event) (key : Nibble) : Prop :=
  (sinceRelease events).find? (Event.sets key) = some (.set (UInt8.ofNat key.val) true)

instance (events : List Event) (key : Nibble) : Decidable (PutDown events key) :=
  inferInstanceAs (Decidable (_ = _))

theorem get_released (key : Nibble) : released.keys.get key = false :=
  Bank.get_fill false key

theorem get_set (keypad : Keypad) (key : UInt8) (down : Bool) (other : Nibble) :
    (keypad.set key down).keys.get other = if key.toNat = other.val then down else keypad.keys.get other := by
  have bound : other.val < 16 := other.isLt
  rw [set]
  by_cases inside : key.toNat < 16
  · have selected : Nibble.low key.toNat = other ↔ key.toNat = other.val := by
      rw [Fin.ext_iff]
      change key.toNat % 16 = other.val ↔ _
      omega
    rw [if_pos inside, Bank.get_set]
    simp only [selected]
  · rw [if_neg inside, if_neg (by omega)]

theorem after_append (keypad : Keypad) (first second : List Event) :
    keypad.after (first ++ second) = (keypad.after first).after second :=
  List.foldl_append

theorem since_release_append (events : List Event) (event : Event) :
    sinceRelease (events ++ [event]) = if event = .releaseAll then [] else event :: sinceRelease events := by
  rw [sinceRelease, List.reverse_append, List.reverse_singleton, List.singleton_append, List.takeWhile_cons]
  by_cases release : event = .releaseAll <;> simp [release, sinceRelease]

theorem put_down_set (events : List Event) (key : UInt8) (down : Bool) (other : Nibble) :
    PutDown (events ++ [.set key down]) other ↔
      if key.toNat = other.val then down = true else PutDown events other := by
  have latest : sinceRelease (events ++ [.set key down]) = .set key down :: sinceRelease events := by
    rw [since_release_append, if_neg (by simp)]
  rw [PutDown, latest]
  by_cases same : key.toNat = other.val
  · have hit : Event.sets other (.set key down) = true := by simp [Event.sets, same]
    have spelled : UInt8.ofNat other.val = key := by rw [← same, UInt8.ofNat_toNat]
    rw [List.find?_cons_of_pos hit, if_pos same, spelled]
    simp
  · have missed : ¬ Event.sets other (.set key down) = true := by simp [Event.sets, same]
    rw [List.find?_cons_of_neg missed, if_neg same]
    rfl

-- By induction on the latest event.
theorem get_after_iff (events : List Event) (key : Nibble) :
    (released.after events).keys.get key = true ↔ PutDown events key := by
  induction events using List.reverseRecOn with
  | nil => simp [after, get_released, PutDown, sinceRelease]
  | append_singleton events event ih =>
      have latest : (released.after events).after [event] = (released.after events).take event := rfl
      rw [after_append, latest]
      cases event with
      | set other down =>
          rw [take, get_set, put_down_set, ← ih]
          split <;> rfl
      | releaseAll => simp [take, get_released, PutDown, since_release_append]

theorem first_none_iff (keypad : Keypad) : keypad.first = none ↔ ∀ key, keypad.keys.get key = false := by
  rw [first, List.find?_eq_none]
  constructor
  · intro released key
    simpa using released key (Nibble.mem_all key)
  · intro released key _
    simp [released key]

theorem all_get (i : Nat) (inside : i < Nibble.all.length) : (Nibble.all[i]).val = i := by
  have bound : i < 16 := by simpa [Nibble.all] using inside
  have element : (Nibble.all[i]).val = i % 16 := by
    simp [Nibble.all]
    rfl
  exact element.trans (Nat.mod_eq_of_lt bound)

theorem first_some_iff (keypad : Keypad) (key : Nibble) :
    keypad.first = some key ↔
      keypad.keys.get key = true ∧ ∀ other, other < key → keypad.keys.get other = false := by
  rw [first, List.find?_eq_some_iff_getElem]
  apply and_congr_right
  intro _
  constructor
  · rintro ⟨i, inside, rfl, before⟩ other earlier
    have position := all_get i inside
    have lower : other.val < i := by rw [← position]; exact earlier
    have found : Nibble.all[other.val] = other := Fin.ext (all_get other.val (by omega))
    simpa [found] using before other.val lower
  · intro before
    have inside : key.val < Nibble.all.length := by simp [Nibble.all]
    refine ⟨key.val, inside, Fin.ext (all_get key.val inside), ?_⟩
    intro j earlier
    have position := all_get j (Nat.lt_trans earlier inside)
    simp [before _ (show Nibble.all[j] < key from by rw [Fin.lt_def, position]; exact earlier)]

end Chip8.Keypad
