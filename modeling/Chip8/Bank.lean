import Chip8.Cells

set_option autoImplicit false

namespace Chip8

abbrev Nibble := Fin 16

def Nibble.low (n : Nat) : Nibble :=
  ⟨n % 16, Nat.mod_lt n (by decide)⟩

def Nibble.all : List Nibble :=
  (List.range 16).map Nibble.low

theorem Nibble.low_val (x : Nibble) : Nibble.low x.val = x := by
  apply Fin.ext
  exact Nat.mod_eq_of_lt x.isLt

theorem Nibble.mem_all (x : Nibble) : x ∈ Nibble.all :=
  List.mem_map.mpr ⟨x.val, List.mem_range.mpr x.isLt, Nibble.low_val x⟩

structure Bank (α : Type) where
  slots : Cells α 4
deriving DecidableEq

namespace Bank

variable {α β : Type}

def fill (value : α) : Bank α :=
  ⟨Cells.fill 4 value⟩

def ofFn (f : Nibble → α) : Bank α :=
  ⟨Cells.ofFn 4 fun i => f (Nibble.low i)⟩

def get (bank : Bank α) (x : Nibble) : α :=
  bank.slots.get x.val

def set (bank : Bank α) (x : Nibble) (value : α) : Bank α :=
  ⟨bank.slots.set x.val value⟩

def map (f : α → β) (bank : Bank α) : Bank β :=
  ⟨bank.slots.map f⟩

def toList (bank : Bank α) : List α :=
  Nibble.all.map bank.get

theorem get_fill (value : α) (x : Nibble) : (fill value).get x = value :=
  Cells.get_fill 4 value x.val

theorem get_map (f : α → β) (bank : Bank α) (x : Nibble) : (bank.map f).get x = f (bank.get x) :=
  Cells.get_map f bank.slots x.val

theorem get_of_fn (f : Nibble → α) (x : Nibble) : (ofFn f).get x = f x := by
  have inside : x.val % Cells.size 4 = x.val := Nat.mod_eq_of_lt x.isLt
  rw [ofFn, get, Cells.get_of_fn, inside, Nibble.low_val]

theorem get_set (bank : Bank α) (x y : Nibble) (value : α) :
    (bank.set x value).get y = if x = y then value else bank.get y := by
  have left : x.val % Cells.size 4 = x.val := Nat.mod_eq_of_lt x.isLt
  have right : y.val % Cells.size 4 = y.val := Nat.mod_eq_of_lt y.isLt
  simp only [set, get, Cells.get_set, left, right, Fin.ext_iff]

theorem get_set_self (bank : Bank α) (x : Nibble) (value : α) : (bank.set x value).get x = value := by
  rw [get_set, if_pos rfl]

theorem get_set_ne (bank : Bank α) (x y : Nibble) (value : α) (different : x ≠ y) :
    (bank.set x value).get y = bank.get y := by
  rw [get_set, if_neg different]

theorem eq_of_get (a b : Bank α) (same : ∀ x, a.get x = b.get x) : a = b := by
  cases a with
  | mk left =>
      cases b with
      | mk right =>
          congr 1
          apply Cells.eq_of_get
          intro i inside
          exact same ⟨i, inside⟩

end Bank

end Chip8
