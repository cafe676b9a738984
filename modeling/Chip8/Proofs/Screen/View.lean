import Chip8.Proofs.Text.Lines
import Chip8.Screen.View

set_option autoImplicit false

namespace Chip8.Screen

theorem pixel_at_place (p : Pixel) : pixelAt (p.val % 64) (p.val / 64) = p := by
  apply Fin.ext
  change p.val / 64 % 32 * 64 + p.val % 64 % 64 = p.val
  omega

theorem is_on_place (s : Screen) (p : Pixel) : s.isOn (p.val % 64) (p.val / 64) = s.isLit p := by
  rw [isOn, pixel_at_place]

theorem pixel_at_val (x y : Nat) (column : x < 64) (row : y < 32) : (pixelAt x y).val = y * 64 + x := by
  change y % 32 * 64 + x % 64 = y * 64 + x
  omega

theorem pixel_at_wraps (x y : Nat) : pixelAt (x % 64) (y % 32) = pixelAt x y := by
  apply Fin.ext
  change y % 32 % 32 * 64 + x % 64 % 64 = y % 32 * 64 + x % 64
  omega

theorem is_on_wraps (s : Screen) (x y : Nat) : s.isOn x y = s.isOn (x % 64) (y % 32) := by
  rw [isOn, isOn, pixel_at_wraps]

theorem eq_of_is_on (s t : Screen) (same : ∀ x y, x < 64 → y < 32 → s.isOn x y = t.isOn x y) : s = t := by
  apply eq_of_is_lit
  intro p
  have column : p.val % 64 < 64 := Nat.mod_lt _ (by decide)
  have row : p.val / 64 < 32 := by omega
  rw [← is_on_place, ← is_on_place]
  exact same _ _ column row

theorem line_list (lit dark : Char) (s : Screen) (y : Nat) :
    (line lit dark s y).toList = (List.range 64).map fun x => if s.isOn x y then lit else dark :=
  String.toList_ofList

theorem line_get (lit dark : Char) (s : Screen) (x y : Nat) (column : x < 64) :
    (line lit dark s y).toList[x]? = some (if s.isOn x y then lit else dark) := by
  rw [line_list, List.getElem?_map, List.getElem?_range column]
  rfl

theorem line_unbroken (lit dark : Char) (s : Screen) (y : Nat) (marks : '\n' ≠ lit ∧ '\n' ≠ dark) :
    '\n' ∉ (line lit dark s y).toList := by
  rw [line_list]
  intro member
  obtain ⟨x, _, same⟩ := List.mem_map.mp member
  by_cases on : s.isOn x y = true
  · rw [if_pos on] at same
    exact marks.1 same.symm
  · rw [if_neg on] at same
    exact marks.2 same.symm

def RowMajor (a b : Nat × Nat) : Prop :=
  a.2 < b.2 ∨ a.2 = b.2 ∧ a.1 < b.1

theorem mem_lit_iff (s : Screen) (x y : Nat) : (x, y) ∈ s.lit ↔ x < 64 ∧ y < 32 ∧ s.isOn x y = true := by
  rw [lit, litPixels, List.mem_map]
  constructor
  · rintro ⟨p, member, same⟩
    obtain ⟨rfl, rfl⟩ := Prod.mk.inj same
    have on := (List.mem_filter.mp member).2
    rw [is_on_place]
    exact ⟨Nat.mod_lt _ (by decide), by omega, on⟩
  · rintro ⟨column, row, on⟩
    refine ⟨pixelAt x y, List.mem_filter.mpr ⟨List.mem_finRange _, on⟩, ?_⟩
    rw [pixel_at_val x y column row]
    apply Prod.ext
    · change (y * 64 + x) % 64 = x
      omega
    · change (y * 64 + x) / 64 = y
      omega

theorem lit_row_major (s : Screen) : s.lit.Pairwise RowMajor := by
  have ascending : s.litPixels.Pairwise (· < ·) := (List.pairwise_lt_finRange 2048).filter s.isLit
  rw [lit, List.pairwise_map]
  apply ascending.imp
  intro p q less
  have below : p.val < q.val := less
  change p.val / 64 < q.val / 64 ∨ p.val / 64 = q.val / 64 ∧ p.val % 64 < q.val % 64
  omega

theorem text_rows (s : Screen) :
    s.text.toList = (List.range 32).flatMap fun y => (line '#' '.' s y).toList ++ ['\n'] := by
  simp [text, lines, String.toList_join, List.flatMap_map]

theorem length_text_row (s : Screen) (y : Nat) : ((line '#' '.' s y).toList ++ ['\n']).length = 65 := by
  simp [line_list]

theorem length_text (s : Screen) : s.text.toList.length = 2080 := by
  rw [text_rows, Text.length_columns 65 _ _ fun y _ => length_text_row s y]
  rfl

theorem text_row_get (s : Screen) (y k : Nat) (row : y < 32) (column : k < 65) :
    s.text.toList[65 * y + k]? = ((line '#' '.' s y).toList ++ ['\n'])[k]? := by
  have inside : y < (List.range 32).length := by
    rw [List.length_range]
    exact row
  rw [text_rows, Text.get_in_column 65 y k _ _ (fun y _ => length_text_row s y) inside column, List.getElem_range]

theorem text_get (s : Screen) (x y : Nat) (column : x < 64) (row : y < 32) :
    s.text.toList[65 * y + x]? = some (if s.isOn x y then '#' else '.') := by
  have before : x < (line '#' '.' s y).toList.length := by
    rw [line_list, List.length_map, List.length_range]
    exact column
  rw [text_row_get s y x row (by omega), List.getElem?_append_left before, line_get '#' '.' s x y column]

theorem text_row_end (s : Screen) (y : Nat) (row : y < 32) : s.text.toList[65 * y + 64]? = some '\n' := by
  rw [text_row_get s y 64 row (by decide), line_list, List.getElem?_append_right (by simp)]
  simp

theorem length_snapshot (s : Screen) : s.snapshot.length = 2048 := by
  rw [snapshot, List.length_map, List.length_finRange]

theorem snapshot_get (s : Screen) (x y : Nat) (column : x < 64) (row : y < 32) :
    s.snapshot[64 * y + x]? = some (if s.isOn x y then litValue else darkValue) := by
  have inside : 64 * y + x < (List.finRange 2048).length := by
    rw [List.length_finRange]
    omega
  have place : (List.finRange 2048)[64 * y + x] = pixelAt x y := by
    apply Fin.ext
    rw [List.getElem_finRange, pixel_at_val x y column row]
    change 64 * y + x = y * 64 + x
    omega
  rw [snapshot, List.getElem?_map, List.getElem?_eq_getElem inside, place]
  rfl

-- Two marks tell a lit pixel from a dark one, so that a view which shows marks determines the screen.
theorem marks_determine {α : Type} (lit dark : α) (different : lit ≠ dark) (a b : Bool)
    (same : (if a = true then lit else dark) = if b = true then lit else dark) : a = b := by
  cases a with
  | true =>
      cases b with
      | true => rfl
      | false => exact absurd same different
  | false =>
      cases b with
      | true => exact absurd same.symm different
      | false => rfl

theorem lit_determines (s t : Screen) (same : s.lit = t.lit) : s = t := by
  apply eq_of_is_on
  intro x y column row
  have member : (x, y) ∈ s.lit ↔ (x, y) ∈ t.lit := by rw [same]
  rw [mem_lit_iff, mem_lit_iff] at member
  apply Bool.eq_iff_iff.mpr
  simpa [column, row] using member

theorem text_determines (s t : Screen) (same : s.text = t.text) : s = t := by
  apply eq_of_is_on
  intro x y column row
  have mark := s.text_get x y column row
  rw [same, t.text_get x y column row] at mark
  exact (marks_determine '#' '.' (by decide) _ _ (Option.some.inj mark)).symm

theorem snapshot_determines (s t : Screen) (same : s.snapshot = t.snapshot) : s = t := by
  apply eq_of_is_on
  intro x y column row
  have raw := s.snapshot_get x y column row
  rw [same, t.snapshot_get x y column row] at raw
  exact (marks_determine litValue darkValue (by decide) _ _ (Option.some.inj raw)).symm

end Chip8.Screen
