import Mathlib.Data.List.Flatten
import Chip8.Proofs.Screen.Sprite

set_option autoImplicit false

namespace Chip8.Screen

structure Sprite where
  x : UInt8
  y : UInt8
  rows : List UInt8

def Sprite.pixels (sprite : Sprite) : List Pixel :=
  targets sprite.x.toNat sprite.y.toNat sprite.rows

def drawAll (s : Screen) (sprites : List Sprite) : Screen :=
  sprites.foldl (fun screen sprite => (screen.draw sprite.x sprite.y sprite.rows).1) s

theorem flip_all_append (s : Screen) (first second : List Pixel) :
    s.flipAll (first ++ second) = (s.flipAll first).flipAll second :=
  List.foldl_append

theorem draw_all_flips (s : Screen) (sprites : List Sprite) :
    s.drawAll sprites = s.flipAll (sprites.flatMap Sprite.pixels) := by
  induction sprites generalizing s with
  | nil => rfl
  | cons sprite rest ih =>
      have next : s.drawAll (sprite :: rest) = (s.draw sprite.x sprite.y sprite.rows).1.drawAll rest := rfl
      rw [next, ih, draw_screen, List.flatMap_cons, flip_all_append]
      rfl

theorem flip_all_perm (s : Screen) (pixels other : List Pixel) (perm : pixels.Perm other) :
    s.flipAll other = s.flipAll pixels := by
  apply eq_of_is_lit
  intro c
  rw [is_lit_flip_all, is_lit_flip_all, perm.count_eq]

theorem flip_all_undone (s : Screen) (pixels : List Pixel) : (s.flipAll pixels).flipAll pixels = s := by
  apply eq_of_is_lit
  intro c
  rw [is_lit_flip_all, is_lit_flip_all, Bool.bne_assoc, bne_self_eq_false, Bool.bne_false]

theorem draw_all_perm (s : Screen) (sprites other : List Sprite) (perm : sprites.Perm other) :
    s.drawAll other = s.drawAll sprites := by
  rw [draw_all_flips, draw_all_flips]
  exact flip_all_perm s _ _ (perm.flatMap_right Sprite.pixels)

theorem draw_all_undone (s : Screen) (sprites : List Sprite) : (s.drawAll sprites).drawAll sprites = s := by
  rw [draw_all_flips, draw_all_flips, flip_all_undone]

theorem targets_of_row (x y z : Nat) (rows : List UInt8) (same : y % 32 = z % 32) : targets x y rows = targets x z rows := by
  induction rows generalizing y z with
  | nil => rfl
  | cons row rest ih =>
      have pixels : ∀ dx, pixelAt (x + dx) y = pixelAt (x + dx) z := by
        intro dx
        rw [pixel_at_eq_iff]
        have place := (pixel_at_eq_iff (x + dx) z (pixelAt (x + dx) z)).mp rfl
        rw [same, place]
      have later : (y + 1) % 32 = (z + 1) % 32 := by omega
      simp only [targets, pixels, ih (y + 1) (z + 1) later]

def Sprite.upper (sprite : Sprite) (count : Nat) : Sprite :=
  { sprite with rows := sprite.rows.take count }

-- The rows below the first `count`, so many rows further down, with the row of the corner counted modulo 256.
def Sprite.lower (sprite : Sprite) (count : Nat) : Sprite :=
  { sprite with y := UInt8.ofNat (sprite.y.toNat + count), rows := sprite.rows.drop count }

theorem sprite_split (sprite : Sprite) (count : Nat) (inside : count ≤ sprite.rows.length) :
    sprite.pixels = (sprite.upper count).pixels ++ (sprite.lower count).pixels := by
  have row : (UInt8.ofNat (sprite.y.toNat + count)).toNat % 32 = (sprite.y.toNat + count) % 32 := by
    rw [UInt8.toNat_ofNat']
    omega
  have length : (sprite.rows.take count).length = count := List.length_take_of_le inside
  have whole := targets_append sprite.x.toNat sprite.y.toNat (sprite.rows.take count) (sprite.rows.drop count)
  rw [List.take_append_drop, length] at whole
  rw [Sprite.pixels, whole, Sprite.pixels, Sprite.pixels]
  congr 1
  exact (targets_of_row _ _ _ _ row).symm

theorem draw_all_split (s : Screen) (before after : List Sprite) (sprite : Sprite) (count : Nat)
    (inside : count ≤ sprite.rows.length) :
    s.drawAll (before ++ sprite.upper count :: sprite.lower count :: after) =
      s.drawAll (before ++ sprite :: after) := by
  simp only [draw_all_flips, List.flatMap_append, List.flatMap_cons, sprite_split sprite count inside, List.append_assoc]

theorem collides_twice (s : Screen) (pixels : List Pixel) (c : Pixel) (member : c ∈ pixels) :
    s.Collides pixels ∨ (s.flipAll pixels).Collides pixels := by
  have once : 1 ≤ pixels.count c := List.count_pos_iff.mpr member
  by_cases twice : 2 ≤ pixels.count c
  · exact .inl ⟨c, .inr twice⟩
  · have odd : pixels.count c % 2 = 1 := by omega
    by_cases lit : s.isLit c = true
    · exact .inl ⟨c, .inl ⟨once, lit⟩⟩
    · refine .inr ⟨c, .inl ⟨once, ?_⟩⟩
      simp [is_lit_flip_all, odd, lit]

theorem set_bit_targets (x y : Nat) (rows : List UInt8) (row : UInt8) (member : row ∈ rows) (bit : Nat) (inside : bit < 8)
    (set : row.toNat.testBit bit = true) : ∃ c, c ∈ targets x y rows := by
  induction rows generalizing y with
  | nil => exact absurd member List.not_mem_nil
  | cons first rest ih =>
      rcases List.mem_cons.mp member with here | later
      · refine ⟨pixelAt (x + (7 - bit)) y, List.mem_append_left _ ?_⟩
        have column : 7 - (7 - bit) = bit := by omega
        have named : 7 - bit ∈ columns first := by
          rw [columns, List.mem_filter, List.mem_range, column, ← here]
          exact ⟨by omega, set⟩
        exact List.mem_map_of_mem named
      · obtain ⟨c, found⟩ := ih (y + 1) later
        exact ⟨c, List.mem_append_right _ found⟩

theorem sprites_commute_and_cancel (s : Screen) :
    (∀ sprites other : List Sprite, sprites.Perm other →
      s.drawAll other = s.drawAll sprites ∧ (s.drawAll sprites).drawAll other = s) ∧
    (∀ (before after : List Sprite) (sprite : Sprite) (count : Nat), count ≤ sprite.rows.length →
      s.drawAll (before ++ sprite.upper count :: sprite.lower count :: after) =
        s.drawAll (before ++ sprite :: after)) ∧
    (∀ x y rows, (∃ row ∈ rows, ∃ bit < 8, row.toNat.testBit bit = true) →
      (s.draw x y rows).2 = true ∨ ((s.draw x y rows).1.draw x y rows).2 = true) := by
  refine ⟨?_, draw_all_split s, ?_⟩
  · intro sprites other perm
    refine ⟨draw_all_perm s sprites other perm, ?_⟩
    rw [draw_all_perm _ sprites other perm, draw_all_undone]
  · intro x y rows ⟨row, member, bit, inside, set⟩
    obtain ⟨c, target⟩ := set_bit_targets x.toNat y.toNat rows row member bit inside set
    rw [draw_flag, draw_flag, draw_screen]
    exact collides_twice s _ c target

def tall : Sprite := ⟨62, 250, List.replicate 40 0xE1⟩

def small : Sprite := ⟨0, 31, [0x90, 0x00, 0xFF]⟩

theorem tall_and_small_cancel :
    [tall, small].Perm [small, tall] ∧ (blank.drawAll [tall, small]).drawAll [small, tall] = blank ∧
      10 ≤ tall.rows.length ∧ (tall.lower 10).y = 4 ∧
      blank.drawAll [small, tall.upper 10, tall.lower 10] = blank.drawAll [small, tall] ∧
      ((blank.draw 0 31 [0x90]).2 = true ∨ ((blank.draw 0 31 [0x90]).1.draw 0 31 [0x90]).2 = true) := by
  obtain ⟨permuted, split, collides⟩ := sprites_commute_and_cancel blank
  have perm : [tall, small].Perm [small, tall] := .swap small tall []
  have inside : 10 ≤ tall.rows.length := by decide
  obtain ⟨_, cancelled⟩ := permuted [tall, small] [small, tall] perm
  exact ⟨perm, cancelled, inside, rfl, split [small] [] tall 10 inside,
    collides 0 31 [0x90] ⟨0x90, by decide, 7, by decide, by decide⟩⟩

end Chip8.Screen
