import Mathlib.Algebra.BigOperators.Fin
import Mathlib.Data.Fintype.BigOperators
import Chip8.Screen.Sprite
import Chip8.Screen.View

set_option autoImplicit false

namespace Chip8.Screen

def flipAll (s : Screen) (pixels : List Pixel) : Screen :=
  pixels.foldl flip s

theorem is_lit_flip_all (s : Screen) (pixels : List Pixel) (c : Pixel) :
    (s.flipAll pixels).isLit c = (s.isLit c != decide (pixels.count c % 2 = 1)) := by
  induction pixels generalizing s with
  | nil => simp [flipAll]
  | cons p rest ih =>
      have next : s.flipAll (p :: rest) = (s.flip p).flipAll rest := rfl
      rw [next, ih, is_lit_flip, List.count_cons]
      by_cases same : p = c
      · have other : (rest.count c + 1) % 2 = 1 ↔ ¬ rest.count c % 2 = 1 := by omega
        simp only [same, if_true, beq_self_eq_true, other, decide_not]
        cases s.isLit c <;> cases decide (rest.count c % 2 = 1) <;> rfl
      · simp [same]

-- Some flip meets a lit pixel: one that was lit before, or one that is flipped again.
def Collides (s : Screen) (pixels : List Pixel) : Prop :=
  ∃ c, 1 ≤ pixels.count c ∧ s.isLit c = true ∨ 2 ≤ pixels.count c

theorem collides_cons (s : Screen) (p : Pixel) (rest : List Pixel) :
    s.Collides (p :: rest) ↔ s.isLit p = true ∨ (s.flip p).Collides rest := by
  constructor
  · rintro ⟨c, hit⟩
    by_cases same : p = c
    · subst same
      by_cases lit : s.isLit p = true
      · exact .inl lit
      · have twice : 2 ≤ (p :: rest).count p := hit.resolve_left fun once => lit once.2
        rw [List.count_cons_self] at twice
        exact .inr ⟨p, .inl ⟨by omega, by simp [is_lit_flip, lit]⟩⟩
    · refine .inr ⟨c, ?_⟩
      simpa [is_lit_flip, same] using hit
  · rintro (lit | ⟨c, hit⟩)
    · exact ⟨p, .inl ⟨by simp, lit⟩⟩
    · refine ⟨c, ?_⟩
      by_cases same : p = c
      · subst same
        simp only [List.count_cons_self, is_lit_flip, if_true] at hit ⊢
        omega
      · simpa [is_lit_flip, same] using hit

theorem strikes_eq (s : Screen) (flag : Bool) (pixels : List Pixel) :
    (pixels.foldl strike (s, flag)).1 = s.flipAll pixels ∧
      ((pixels.foldl strike (s, flag)).2 = true ↔ flag = true ∨ s.Collides pixels) := by
  induction pixels generalizing s flag with
  | nil => simp [flipAll, Collides]
  | cons p rest ih =>
      obtain ⟨screen, collided⟩ := ih (s.flip p) (flag || s.isLit p)
      rw [List.foldl_cons, strike_eq, collided, collides_cons, Bool.or_eq_true, or_assoc]
      exact ⟨screen, Iff.rfl⟩

theorem draw_screen (s : Screen) (x y : UInt8) (rows : List UInt8) :
    (s.draw x y rows).1 = s.flipAll (targets x.toNat y.toNat rows) :=
  (strikes_eq s false _).1

theorem draw_flag (s : Screen) (x y : UInt8) (rows : List UInt8) :
    (s.draw x y rows).2 = true ↔ s.Collides (targets x.toNat y.toNat rows) := by
  rw [draw, (strikes_eq s false _).2]
  simp

def Lands (x y : Nat) (row : UInt8) (dx : Nat) (c : Pixel) : Prop :=
  row.toNat.testBit (7 - dx) = true ∧ ((x + dx) % 64, y % 32) = (c.val % 64, c.val / 64)

instance (x y : Nat) (row : UInt8) (dx : Nat) (c : Pixel) : Decidable (Lands x y row dx c) :=
  inferInstanceAs (Decidable (_ ∧ _))

def landing (x y : Nat) (rows : List UInt8) (c : Pixel) : Finset (Fin rows.length × Fin 8) :=
  Finset.univ.filter fun place => Lands x (y + place.1.val) rows[place.1] place.2.val c

theorem pixel_at_eq_iff (x y : Nat) (c : Pixel) : pixelAt x y = c ↔ (x % 64, y % 32) = (c.val % 64, c.val / 64) := by
  have bound : c.val < 2048 := c.isLt
  rw [Fin.ext_iff, Prod.mk.injEq]
  change y % 32 * 64 + x % 64 = c.val ↔ _
  omega

theorem count_range (n : Nat) (p : Nat → Bool) :
    (List.range n).countP p = ∑ i : Fin n, if p i.val = true then 1 else 0 := by
  induction n with
  | zero => rfl
  | succ n ih =>
      rw [List.range_succ, List.countP_append, ih, Fin.sum_univ_castSucc, List.countP_singleton]
      rfl

theorem count_row (x y : Nat) (row : UInt8) (c : Pixel) :
    ((columns row).map fun dx => pixelAt (x + dx) y).count c =
      ∑ dx : Fin 8, if Lands x y row dx.val c then 1 else 0 := by
  rw [List.count, List.countP_map, columns, List.countP_filter, count_range]
  simp only [Function.comp_apply, Bool.and_eq_true, beq_iff_eq, pixel_at_eq_iff, Lands, and_comm]

theorem sum_rows_cons (f : Nat → UInt8 → Nat) (row : UInt8) (rest : List UInt8) :
    ∑ dy : Fin (row :: rest).length, f dy.val (row :: rest)[dy] =
      f 0 row + ∑ dy : Fin rest.length, f (dy.val + 1) rest[dy] :=
  Fin.sum_univ_succ _

theorem count_targets (x y : Nat) (rows : List UInt8) (c : Pixel) :
    (targets x y rows).count c = (landing x y rows c).card := by
  induction rows generalizing y with
  | nil => rfl
  | cons row rest ih =>
      rw [targets, List.count_append, count_row, ih]
      simp only [landing, Finset.card_filter, Fintype.sum_prod_type]
      rw [sum_rows_cons fun dy row => ∑ dx : Fin 8, if Lands x (y + dy) row dx.val c then 1 else 0]
      simp only [Nat.add_zero, Nat.add_assoc, Nat.add_comm 1]

-- The number of set bits of a sprite that land on a pixel.
def hits (x y : UInt8) (rows : List UInt8) (c : Pixel) : Nat :=
  (landing x.toNat y.toNat rows c).card

theorem hits_of_few (x y : UInt8) (rows : List UInt8) (few : rows.length ≤ 32) (c : Pixel) : hits x y rows c ≤ 1 := by
  rw [hits, Finset.card_le_one]
  intro a first b second
  obtain ⟨_, landsFirst⟩ := (Finset.mem_filter.mp first).2
  obtain ⟨_, landsSecond⟩ := (Finset.mem_filter.mp second).2
  obtain ⟨column, row⟩ := Prod.mk.inj (landsFirst.trans landsSecond.symm)
  have rowBounds := And.intro a.1.isLt b.1.isLt
  have columnBounds := And.intro a.2.isLt b.2.isLt
  apply Prod.ext
  · apply Fin.ext
    omega
  · apply Fin.ext
    omega

theorem lit_value_iff (s : Screen) (c : Pixel) : s.value c = litValue ↔ s.isLit c = true := by
  rw [value]
  cases s.isLit c <;> decide

theorem collides_iff (s : Screen) (x y : UInt8) (rows : List UInt8) :
    (s.draw x y rows).2 = true ↔ ∃ c, 1 ≤ hits x y rows c ∧ s.value c = litValue ∨ 2 ≤ hits x y rows c := by
  simp only [draw_flag, Collides, count_targets, lit_value_iff, hits]

theorem pixel_drawn (s : Screen) (x y : UInt8) (rows : List UInt8) (c : Pixel) :
    ((s.draw x y rows).1.value c = litValue ∨ (s.draw x y rows).1.value c = darkValue) ∧
      ((s.draw x y rows).1.value c = litValue ↔ ¬ (s.value c = litValue ↔ hits x y rows c % 2 = 1)) := by
  refine ⟨ite_eq_or_eq _ _ _, ?_⟩
  rw [lit_value_iff, lit_value_iff, draw_screen, is_lit_flip_all, count_targets, hits]
  cases s.isLit c <;> simp

theorem collides_few_iff (s : Screen) (x y : UInt8) (rows : List UInt8) (few : rows.length ≤ 32) :
    (s.draw x y rows).2 = true ↔ ∃ c, 1 ≤ hits x y rows c ∧ s.value c = litValue := by
  rw [collides_iff]
  apply exists_congr
  intro c
  have once := hits_of_few x y rows few c
  exact or_iff_left (by omega)

theorem draw_closed_form (s : Screen) (x y : UInt8) (rows : List UInt8) :
    (∀ c, ((s.draw x y rows).1.value c = litValue ∨ (s.draw x y rows).1.value c = darkValue) ∧
      ((s.draw x y rows).1.value c = litValue ↔ ¬ (s.value c = litValue ↔ hits x y rows c % 2 = 1))) ∧
    ((s.draw x y rows).2 = true ↔ ∃ c, 1 ≤ hits x y rows c ∧ s.value c = litValue ∨ 2 ≤ hits x y rows c) ∧
    (rows.length ≤ 32 → ((s.draw x y rows).2 = true ↔ ∃ c, 1 ≤ hits x y rows c ∧ s.value c = litValue)) :=
  ⟨pixel_drawn s x y rows, collides_iff s x y rows, collides_few_iff s x y rows⟩

theorem draw_few (s : Screen) (x y : UInt8) (rows : List UInt8) (few : rows.length ≤ 32) :
    (∀ c, (s.draw x y rows).1.value c = litValue ↔ ¬ (s.value c = litValue ↔ hits x y rows c = 1)) ∧
      ((s.draw x y rows).2 = true ↔ ∃ c, hits x y rows c = 1 ∧ s.value c = litValue) := by
  have odd : ∀ c, hits x y rows c % 2 = 1 ↔ hits x y rows c = 1 := by
    intro c
    have once := hits_of_few x y rows few c
    omega
  have hit : ∀ c, 1 ≤ hits x y rows c ↔ hits x y rows c = 1 := by
    intro c
    have once := hits_of_few x y rows few c
    omega
  refine ⟨?_, ?_⟩
  · intro c
    rw [← odd c]
    exact (pixel_drawn s x y rows c).2
  · rw [collides_few_iff s x y rows few]
    simp only [hit]

-- A column of 33 bits from the corner on comes back to the corner; three rows of two bits do not.
theorem tall_sprite_meets_itself :
    (blank.draw 63 31 (List.replicate 33 0x80)).2 = true ∧
      (blank.draw 63 31 (List.replicate 33 0x80)).1.value (pixelAt 63 31) = darkValue ∧
      [0xC0, 0xC0, (0xC0 : UInt8)].length ≤ 32 ∧ (blank.draw 63 31 [0xC0, 0xC0, 0xC0]).2 = false := by
  obtain ⟨cells, flag, _⟩ := draw_closed_form blank 63 31 (List.replicate 33 0x80)
  obtain ⟨_, _, untouched⟩ := draw_closed_form blank 63 31 [0xC0, 0xC0, 0xC0]
  have twice : hits 63 31 (List.replicate 33 0x80) (pixelAt 63 31) = 2 := by decide +kernel
  have dark : ∀ c, blank.value c ≠ litValue := by
    intro c
    rw [Ne, lit_value_iff, is_lit_blank]
    decide
  obtain ⟨exact, lit⟩ := cells (pixelAt 63 31)
  have stays : (blank.draw 63 31 (List.replicate 33 0x80)).1.value (pixelAt 63 31) ≠ litValue := by
    rw [Ne, lit, twice]
    simp [dark]
  have few : [0xC0, 0xC0, (0xC0 : UInt8)].length ≤ 32 := by decide
  refine ⟨flag.mpr ⟨pixelAt 63 31, .inr (Nat.le_of_eq twice.symm)⟩, exact.resolve_left stays, few, ?_⟩
  rw [← Bool.not_eq_true, untouched few]
  rintro ⟨c, _, lit⟩
  exact dark c lit

end Chip8.Screen
