import Mathlib.Data.List.OfFn

set_option autoImplicit false

namespace Chip8

inductive Panic where
  | indexOutOfBounds
  | sliceOutOfBounds
  | lengthMismatch
  | arithmeticOverflow
deriving DecidableEq, Repr

abbrev Checked (α : Type) := Except Panic α

namespace Checked

variable {α β : Type}

@[simp]
theorem ok_bind (value : α) (next : α → Checked β) : ((Except.ok value : Checked α) >>= next) = next value := rfl

@[simp]
theorem pure_eq (value : α) : (pure value : Checked α) = .ok value := rfl

def get (items : List α) (i : Nat) : Checked α :=
  match items[i]? with
  | some item => .ok item
  | none => .error .indexOutOfBounds

def set (items : List α) (i : Nat) (item : α) : Checked (List α) :=
  if i < items.length then .ok (items.set i item) else .error .indexOutOfBounds

def slice (items : List α) (first last : Nat) : Checked (List α) :=
  if first ≤ last ∧ last ≤ items.length then .ok ((items.take last).drop first) else .error .sliceOutOfBounds

def copy (items : List α) (first last : Nat) (source : List α) : Checked (List α) := do
  let target ← slice items first last
  if target.length = source.length then .ok (items.take first ++ source ++ items.drop last)
  else .error .lengthMismatch

def fill (items : List α) (first last : Nat) (item : α) : Checked (List α) := do
  let target ← slice items first last
  copy items first last (List.replicate target.length item)

def add16 (a b : UInt16) : Checked UInt16 :=
  if a.toNat + b.toNat < 65536 then .ok (a + b) else .error .arithmeticOverflow

def sub16 (a b : UInt16) : Checked UInt16 :=
  if b.toNat ≤ a.toNat then .ok (a - b) else .error .arithmeticOverflow

def mul16 (a b : UInt16) : Checked UInt16 :=
  if a.toNat * b.toNat < 65536 then .ok (a * b) else .error .arithmeticOverflow

def add32 (a b : UInt32) : Checked UInt32 :=
  if a.toNat + b.toNat < 4294967296 then .ok (a + b) else .error .arithmeticOverflow

def sub (a b : Nat) : Checked Nat :=
  if b ≤ a then .ok (a - b) else .error .arithmeticOverflow

def shiftRight8 (a : UInt8) (places : Nat) : Checked UInt8 :=
  if places < 8 then .ok (a >>> UInt8.ofNat places) else .error .arithmeticOverflow

theorem set_ok (items : List α) (i : Nat) (item : α) (inside : i < items.length) :
    set items i item = .ok (items.set i item) :=
  if_pos inside

theorem slice_ok (items : List α) (first last : Nat) (ordered : first ≤ last) (inside : last ≤ items.length) :
    slice items first last = .ok ((items.take last).drop first) :=
  if_pos ⟨ordered, inside⟩

theorem length_slice (items : List α) (first last : Nat) (inside : last ≤ items.length) :
    ((items.take last).drop first).length = last - first := by
  rw [List.length_drop, List.length_take, Nat.min_eq_left inside]

theorem copy_ok (items : List α) (first last : Nat) (source : List α) (fits : first + source.length = last)
    (inside : last ≤ items.length) :
    copy items first last source = .ok (items.take first ++ source ++ items.drop last) := by
  have ordered : first ≤ last := by omega
  have matching : ((items.take last).drop first).length = source.length := by
    rw [length_slice items first last inside]
    omega
  rw [copy, slice_ok items first last ordered inside, ok_bind, if_pos matching]

theorem fill_ok (items : List α) (first last : Nat) (item : α) (ordered : first ≤ last)
    (inside : last ≤ items.length) :
    fill items first last item = .ok (items.take first ++ List.replicate (last - first) item ++ items.drop last) := by
  rw [fill, slice_ok items first last ordered inside, ok_bind, length_slice items first last inside]
  apply copy_ok items first last _ _ inside
  rw [List.length_replicate]
  omega

theorem add16_ok (a b : UInt16) (fits : a.toNat + b.toNat < 65536) : add16 a b = .ok (a + b) :=
  if_pos fits

theorem mul16_ok (a b : UInt16) (fits : a.toNat * b.toNat < 65536) : mul16 a b = .ok (a * b) :=
  if_pos fits

theorem add32_ok (a b : UInt32) (fits : a.toNat + b.toNat < 4294967296) : add32 a b = .ok (a + b) :=
  if_pos fits

theorem sub_ok (a b : Nat) (fits : b ≤ a) : sub a b = .ok (a - b) :=
  if_pos fits

theorem shift_right8_ok (a : UInt8) (places : Nat) (fits : places < 8) :
    shiftRight8 a places = .ok (a >>> UInt8.ofNat places) :=
  if_pos fits

theorem masked_low_nibble (b : UInt8) : (b &&& 0x0F).toNat = b.toNat % 16 := by
  rw [UInt8.toNat_and]
  exact Nat.and_two_pow_sub_one_eq_mod b.toNat 4

end Checked

theorem spliced_get {α : Type} (items source : List α) (first last i : Nat) (fits : first + source.length = last)
    (inside : last ≤ items.length) :
    (items.take first ++ source ++ items.drop last)[i]? =
      if first ≤ i ∧ i < last then source[i - first]? else items[i]? := by
  have front : (items.take first).length = first := by
    rw [List.length_take]
    omega
  by_cases before : i < first
  · have outside : ¬ (first ≤ i ∧ i < last) := by omega
    rw [if_neg outside, List.append_assoc, List.getElem?_append_left (by omega), List.getElem?_take_of_lt before]
  · by_cases within : i < last
    · have here : first ≤ i ∧ i < last := by omega
      rw [if_pos here, List.append_assoc, List.getElem?_append_right (by omega), front,
        List.getElem?_append_left (by omega)]
    · have outside : ¬ (first ≤ i ∧ i < last) := by omega
      have behind : (items.take first ++ source).length = last := by
        rw [List.length_append, front, fits]
      have place : last + (i - last) = i := by omega
      rw [if_neg outside, List.getElem?_append_right (by omega), behind, List.getElem?_drop, place]

theorem length_spliced {α : Type} (items source : List α) (first last : Nat) (fits : first + source.length = last)
    (inside : last ≤ items.length) :
    (items.take first ++ source ++ items.drop last).length = items.length := by
  rw [List.length_append, List.length_append, List.length_take, List.length_drop]
  omega

section Listed

variable {α : Type} {n : Nat}

theorem of_fn_at (f : Fin n → α) (p : Fin n) : (List.ofFn f)[p.val]? = some (f p) := by
  rw [List.getElem?_ofFn, dif_pos p.isLt]

theorem eq_of_fn (items : List α) (f : Fin n → α) (length : items.length = n)
    (same : ∀ p : Fin n, items[p.val]? = some (f p)) : items = List.ofFn f := by
  apply List.ext_getElem?
  intro i
  by_cases inside : i < n
  · rw [same ⟨i, inside⟩, of_fn_at f ⟨i, inside⟩]
  · have past : (List.ofFn f).length ≤ i := by
      rw [List.length_ofFn]
      omega
    rw [List.getElem?_eq_none (by omega), List.getElem?_eq_none past]

theorem get_of_fn (f : Fin n → α) (p : Fin n) : Checked.get (List.ofFn f) p.val = .ok (f p) := by
  rw [Checked.get, of_fn_at]

theorem set_of_fn (f g : Fin n → α) (p : Fin n) (value : α)
    (changed : ∀ q, g q = if p = q then value else f q) :
    Checked.set (List.ofFn f) p.val value = .ok (List.ofFn g) := by
  have inside : p.val < (List.ofFn f).length := by
    rw [List.length_ofFn]
    exact p.isLt
  refine (Checked.set_ok _ _ _ inside).trans (congrArg Except.ok ?_)
  apply eq_of_fn
  · rw [List.length_set, List.length_ofFn]
  · intro q
    rw [List.getElem?_set, of_fn_at, changed, if_pos inside]
    by_cases same : p = q
    · rw [if_pos same, if_pos (congrArg Fin.val same)]
    · rw [if_neg same, if_neg fun values => same (Fin.ext values)]

end Listed

end Chip8
