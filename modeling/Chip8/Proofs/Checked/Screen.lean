import Mathlib.Data.Nat.Bitwise
import Chip8.Proofs.Checked.Basic
import Chip8.Proofs.Screen.View
import Chip8.Screen.Sprite

set_option autoImplicit false

namespace Chip8

structure PixelArray where
  values : List UInt32

namespace PixelArray

def isOn (screen : PixelArray) (x y : Nat) : Checked Bool := do
  let value ← Checked.get screen.values (y % 32 * 64 + x % 64)
  return value == Screen.litValue

def drawBits (x line : Nat) (row : UInt8) (drawn : PixelArray × Bool) : List Nat → Checked (PixelArray × Bool)
  | [] => return drawn
  | dx :: rest => do
      let bit ← Checked.shiftRight8 0x80 dx
      if row &&& bit = 0 then drawBits x line row drawn rest
      else
        let place := line * 64 + (x + dx) % 64
        let value ← Checked.get drawn.1.values place
        let values ← Checked.set drawn.1.values place (value ^^^ Screen.litValue)
        drawBits x line row (⟨values⟩, drawn.2 || value == Screen.litValue) rest

def drawRows (x y dy : Nat) (drawn : PixelArray × Bool) : List UInt8 → Checked (PixelArray × Bool)
  | [] => return drawn
  | row :: rest => do
      let next ← drawBits x ((y + dy) % 32) row drawn (List.range 8)
      drawRows x y (dy + 1) next rest

def draw (screen : PixelArray) (x y : UInt8) (rows : List UInt8) : Checked (PixelArray × Bool) :=
  drawRows x.toNat y.toNat 0 (screen, false) rows

def clear (screen : PixelArray) : PixelArray :=
  ⟨List.replicate screen.values.length Screen.darkValue⟩

end PixelArray

namespace Screen

def array (s : Screen) : PixelArray :=
  ⟨List.ofFn s.value⟩

theorem array_values (s : Screen) : s.array.values = List.ofFn s.value := by
  rw [array]

theorem length_array (s : Screen) : s.array.values.length = 2048 := by
  rw [array_values, List.length_ofFn]

theorem get_checked (s : Screen) (p : Pixel) : Checked.get s.array.values p.val = .ok (s.value p) := by
  rw [array_values, get_of_fn]

theorem value_lit (s : Screen) (p : Pixel) : (s.value p == litValue) = s.isLit p := by
  rw [value]
  cases s.isLit p <;> rfl

theorem value_flip (s : Screen) (p q : Pixel) :
    (s.flip p).value q = if p = q then s.value p ^^^ litValue else s.value q := by
  rw [value, is_lit_flip]
  by_cases same : p = q
  · rw [if_pos same, if_pos same, same, value]
    cases s.isLit q <;> rfl
  · rw [if_neg same, if_neg same, value]

theorem flip_checked (s : Screen) (p : Pixel) :
    Checked.set s.array.values p.val (s.value p ^^^ litValue) = .ok (s.flip p).array.values := by
  rw [array_values, array_values]
  exact set_of_fn s.value (s.flip p).value p _ (value_flip s p)

theorem is_on_checked (s : Screen) (x y : Nat) : s.array.isOn x y = .ok (s.isOn x y) := by
  have found := get_checked s (pixelAt x y)
  have place : (pixelAt x y).val = y % 32 * 64 + x % 64 := rfl
  rw [place] at found
  rw [PixelArray.isOn, found, Checked.ok_bind, value_lit]
  rfl

-- The mask of column `dx` has one bit, the one that is `dx` places from the top.
theorem masked_bit (row : UInt8) (dx : Nat) (column : dx < 8) :
    row &&& ((0x80 : UInt8) >>> UInt8.ofNat dx) = 0 ↔ row.toNat.testBit (7 - dx) = false := by
  have bit : ((0x80 : UInt8) >>> UInt8.ofNat dx).toNat = 2 ^ (7 - dx) := by
    revert column
    revert dx
    decide
  rw [← UInt8.toNat_inj, UInt8.toNat_and, bit, Nat.and_two_pow]
  have positive : 0 < 2 ^ (7 - dx) := Nat.two_pow_pos _
  cases row.toNat.testBit (7 - dx) <;> simp

def arrayed (drawn : Screen × Bool) : PixelArray × Bool :=
  (drawn.1.array, drawn.2)

theorem draw_bits_checked (x y : Nat) (row : UInt8) (columns : List Nat) (bounded : ∀ dx ∈ columns, dx < 8)
    (drawn : Screen × Bool) :
    PixelArray.drawBits x (y % 32) row (arrayed drawn) columns =
      .ok (arrayed (((columns.filter fun dx => row.toNat.testBit (7 - dx)).map fun dx => pixelAt (x + dx) y).foldl strike
        drawn)) := by
  induction columns generalizing drawn with
  | nil => rfl
  | cons dx rest ih =>
      have column : dx < 8 := bounded dx List.mem_cons_self
      have later := ih fun other member => bounded other (List.mem_cons_of_mem dx member)
      rw [PixelArray.drawBits, Checked.shift_right8_ok _ _ column, Checked.ok_bind]
      by_cases set : row.toNat.testBit (7 - dx) = true
      · have seen : ¬ row &&& ((0x80 : UInt8) >>> UInt8.ofNat dx) = 0 := by
          rw [masked_bit row dx column, set]
          exact Bool.noConfusion
        have place : (pixelAt (x + dx) y).val = y % 32 * 64 + (x + dx) % 64 := rfl
        have stored := flip_checked drawn.1 (pixelAt (x + dx) y)
        have left : PixelArray.mk (drawn.1.flip (pixelAt (x + dx) y)).array.values =
            (drawn.1.flip (pixelAt (x + dx) y)).array := by rw [array]
        have found := get_checked drawn.1 (pixelAt (x + dx) y)
        rw [place] at stored found
        rw [if_neg seen, List.filter_cons, if_pos set, List.map_cons, List.foldl_cons, strike_eq]
        simp only [arrayed, found, stored, left, Checked.ok_bind, value_lit]
        exact later (drawn.1.flip (pixelAt (x + dx) y), drawn.2 || drawn.1.isLit (pixelAt (x + dx) y))
      · have unset : row &&& ((0x80 : UInt8) >>> UInt8.ofNat dx) = 0 :=
          (masked_bit row dx column).mpr (Bool.not_eq_true _ ▸ set)
        rw [if_pos unset, List.filter_cons, if_neg set]
        exact later drawn

theorem draw_rows_checked (x y dy : Nat) (rows : List UInt8) (drawn : Screen × Bool) :
    PixelArray.drawRows x y dy (arrayed drawn) rows =
      .ok (arrayed ((targets x (y + dy) rows).foldl strike drawn)) := by
  induction rows generalizing dy drawn with
  | nil => rfl
  | cons row rest ih =>
      have bits := draw_bits_checked x (y + dy) row (List.range 8) (fun dx => List.mem_range.mp) drawn
      rw [PixelArray.drawRows, bits, Checked.ok_bind, targets, List.foldl_append]
      exact ih (dy + 1) _

theorem draw_checked (s : Screen) (x y : UInt8) (rows : List UInt8) :
    s.array.draw x y rows = .ok (arrayed (s.draw x y rows)) :=
  draw_rows_checked x.toNat y.toNat 0 rows (s, false)

theorem blank_array : PixelArray.mk (List.replicate 2048 darkValue) = blank.array := by
  apply congrArg PixelArray.mk
  apply eq_of_fn
  · exact List.length_replicate
  · intro p
    rw [List.getElem?_replicate, if_pos p.isLt, value, is_lit_blank]
    rfl

theorem clear_checked (s : Screen) : s.array.clear = blank.array := by
  rw [PixelArray.clear, length_array, blank_array]

end Screen

end Chip8
