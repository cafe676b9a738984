import Chip8.Cells

set_option autoImplicit false

namespace Chip8

structure Screen where
  pixels : Cells Bool 11
deriving DecidableEq

namespace Screen

def width : Nat := 64

def height : Nat := 32

abbrev Pixel := Fin 2048

def pixelAt (x y : Nat) : Pixel :=
  ⟨y % 32 * 64 + x % 64, by omega⟩

def blank : Screen :=
  ⟨Cells.fill 11 false⟩

def isLit (s : Screen) (p : Pixel) : Bool :=
  s.pixels.get p.val

def isOn (s : Screen) (x y : Nat) : Bool :=
  s.isLit (pixelAt x y)

def paint (s : Screen) (p : Pixel) (lit : Bool) : Screen :=
  ⟨s.pixels.set p.val lit⟩

def flip (s : Screen) (p : Pixel) : Screen :=
  s.paint p (!s.isLit p)

theorem is_lit_blank (p : Pixel) : blank.isLit p = false :=
  Cells.get_fill 11 false p.val

theorem is_lit_paint (s : Screen) (p q : Pixel) (lit : Bool) :
    (s.paint p lit).isLit q = if p = q then lit else s.isLit q := by
  have left : p.val % Cells.size 11 = p.val := Nat.mod_eq_of_lt p.isLt
  have right : q.val % Cells.size 11 = q.val := Nat.mod_eq_of_lt q.isLt
  simp only [paint, isLit, Cells.get_set, left, right, Fin.ext_iff]

theorem is_lit_flip (s : Screen) (p q : Pixel) :
    (s.flip p).isLit q = if p = q then !s.isLit q else s.isLit q := by
  rw [flip, is_lit_paint]
  by_cases same : p = q <;> simp [same]

theorem eq_of_is_lit (a b : Screen) (same : ∀ p, a.isLit p = b.isLit p) : a = b := by
  cases a with
  | mk left =>
      cases b with
      | mk right =>
          congr 1
          apply Cells.eq_of_get
          intro i inside
          exact same ⟨i, inside⟩

end Screen

end Chip8
