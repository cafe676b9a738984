set_option autoImplicit false

namespace Chip8.Text

variable {α β : Type}

theorem intercalate_ended (separator : List α) (pieces : List (List α)) :
    separator.intercalate (pieces ++ [[]]) = pieces.flatMap (· ++ separator) := by
  induction pieces with
  | nil => rfl
  | cons piece rest ih =>
      cases rest with
      | nil => simp [List.intercalate]
      | cons next others =>
          rw [List.cons_append, List.cons_append, List.intercalate_cons_cons, List.flatMap_cons, ← ih]
          rfl

theorem intercalate_then (separator : List α) (pieces : List (List α)) (nonempty : pieces ≠ []) :
    separator.intercalate pieces ++ separator = pieces.flatMap (· ++ separator) := by
  induction pieces with
  | nil => exact absurd rfl nonempty
  | cons piece rest ih =>
      cases rest with
      | nil => simp [List.intercalate]
      | cons next others =>
          have remaining := ih (List.cons_ne_nil next others)
          rw [List.intercalate_cons_cons, List.append_assoc, remaining]
          rfl

theorem not_mem_intercalate (separator : List α) (pieces : List (List α)) (a : α) (apart : a ∉ separator)
    (outside : ∀ piece ∈ pieces, a ∉ piece) : a ∉ separator.intercalate pieces := by
  intro member
  by_cases empty : pieces = []
  · subst empty
    exact absurd member List.not_mem_nil
  · have among : a ∈ pieces.flatMap (· ++ separator) := by
      rw [← intercalate_then separator pieces empty]
      exact List.mem_append_left separator member
    obtain ⟨piece, here, inside⟩ := List.mem_flatMap.mp among
    rcases List.mem_append.mp inside with within | between
    · exact outside piece here within
    · exact apart between

theorem split_lines (lines : List (List Char)) (unbroken : ∀ line ∈ lines, '\n' ∉ line) :
    (lines.flatMap (· ++ ['\n'])).splitOn '\n' = lines ++ [[]] := by
  rw [← intercalate_ended]
  apply List.splitOn_intercalate
  · intro line member
    rcases List.mem_append.mp member with inside | last
    · exact unbroken line inside
    · rw [List.mem_singleton.mp last]
      exact List.not_mem_nil
  · simp

theorem length_columns (width : Nat) (items : List α) (f : α → List β)
    (same : ∀ item ∈ items, (f item).length = width) : (items.flatMap f).length = width * items.length := by
  induction items with
  | nil => rfl
  | cons item rest ih =>
      have first := same item List.mem_cons_self
      have others := ih fun other member => same other (List.mem_cons_of_mem item member)
      rw [List.flatMap_cons, List.length_append, first, others, List.length_cons, Nat.mul_succ, Nat.add_comm]

theorem drop_columns (width k : Nat) (items : List α) (f : α → List β)
    (same : ∀ item ∈ items, (f item).length = width) :
    (items.flatMap f).drop (width * k) = (items.drop k).flatMap f := by
  induction k generalizing items with
  | zero => rfl
  | succ k ih =>
      cases items with
      | nil => simp
      | cons item rest =>
          have first := same item List.mem_cons_self
          have others := ih rest fun other member => same other (List.mem_cons_of_mem item member)
          rw [List.flatMap_cons, Nat.mul_succ, Nat.add_comm, ← List.drop_drop, ← first, List.drop_left, first, others]
          rfl

theorem take_in_column (width k start count : Nat) (items : List α) (f : α → List β)
    (same : ∀ item ∈ items, (f item).length = width) (inside : k < items.length) (fits : start + count ≤ width) :
    ((items.flatMap f).drop (width * k + start)).take count = ((f items[k]).drop start).take count := by
  have first := same items[k] (List.getElem_mem inside)
  have room : count ≤ ((f items[k]).drop start).length := by
    rw [List.length_drop, first]
    omega
  have before : start ≤ (f items[k]).length := by omega
  rw [← List.drop_drop, drop_columns width k items f same, List.drop_eq_getElem_cons inside, List.flatMap_cons,
    List.drop_append_of_le_length before, List.take_append_of_le_length room]

theorem get_in_column (width k start : Nat) (items : List α) (f : α → List β)
    (same : ∀ item ∈ items, (f item).length = width) (inside : k < items.length) (within : start < width) :
    (items.flatMap f)[width * k + start]? = (f items[k])[start]? := by
  have first := same items[k] (List.getElem_mem inside)
  have before : start < (f items[k]).length := by omega
  rw [← List.getElem?_drop, drop_columns width k items f same, List.drop_eq_getElem_cons inside, List.flatMap_cons,
    List.getElem?_append_left before]

end Chip8.Text
