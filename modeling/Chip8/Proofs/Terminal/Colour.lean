import Mathlib.Data.Finset.Card
import Mathlib.Data.Finset.Prod
import Chip8.Proofs.Terminal.Picture

set_option autoImplicit false

namespace Chip8.Terminal

variable (toolkit : Toolkit)

theorem ink_white_iff (documented : toolkit.Documented) (screen : Screen) (column row : Nat) :
    (toolkit.render (picture screen) emptyGrid column row).ink = .white ↔
      (column, row) ∈ toolkit.cells (picture screen) := by
  rw [Toolkit.render, documented.boxes, titledBox]
  by_cases painted : (column, row) ∈ toolkit.cells (picture screen)
  · simp [painted]
  · rw [if_neg painted]
    split <;> simp [painted, emptyGrid]

theorem paper_black_iff (documented : toolkit.Documented) (screen : Screen) (column row : Nat)
    (inside : column < boxWidth ∧ row < boxHeight) :
    (toolkit.render (picture screen) emptyGrid column row).paper = .black ↔
      (column, row) ∉ toolkit.cells (picture screen) := by
  have within : ¬ (boxWidth ≤ column ∨ boxHeight ≤ row) := by omega
  have width : (picture screen).toBox.width = boxWidth := rfl
  have height : (picture screen).toBox.height = boxHeight := rfl
  rw [Toolkit.render, documented.boxes, titledBox, width, height, if_neg within]
  by_cases painted : (column, row) ∈ toolkit.cells (picture screen) <;> simp [painted]

def boxPlaces (grid : Grid) (holds : Cell → Prop) [DecidablePred holds] : Finset (Nat × Nat) :=
  (Finset.range boxWidth ×ˢ Finset.range boxHeight).filter fun place => holds (grid place.1 place.2)

theorem mem_box_places (grid : Grid) (holds : Cell → Prop) [DecidablePred holds] (column row : Nat) :
    (column, row) ∈ boxPlaces grid holds ↔ (column < boxWidth ∧ row < boxHeight) ∧ holds (grid column row) := by
  rw [boxPlaces, Finset.mem_filter, Finset.mem_product, Finset.mem_range, Finset.mem_range]

theorem white_places (documented : toolkit.Documented) (screen : Screen) :
    boxPlaces (toolkit.render (picture screen) emptyGrid) (·.ink = .white) =
      (toolkit.cells (picture screen)).toFinset := by
  have width : boxWidth = 66 := rfl
  have height : boxHeight = 34 := rfl
  ext ⟨column, row⟩
  rw [mem_box_places, List.mem_toFinset, ink_white_iff toolkit documented]
  constructor
  · exact And.right
  · intro painted
    obtain ⟨x, y, ⟨across, down, _⟩, rfl, rfl⟩ := (mem_cells_iff toolkit documented screen column row).mp painted
    exact ⟨by omega, painted⟩

theorem card_cells (documented : toolkit.Documented) (screen : Screen) :
    (toolkit.cells (picture screen)).toFinset.card = whiteCells screen := by
  have apart : screen.lit.Nodup := by
    apply screen.lit_row_major.imp
    rintro pair _ order rfl
    rcases order with below | ⟨_, right⟩
    · exact Nat.lt_irrefl _ below
    · exact Nat.lt_irrefl _ right
  have one : (toolkit.cells (picture screen)).Nodup := by
    rw [cells_eq toolkit documented]
    apply apart.map
    intro first second same
    obtain ⟨across, down⟩ := Prod.mk.inj same
    exact Prod.ext (Nat.succ.inj across) (Nat.succ.inj down)
  rw [List.toFinset_card_of_nodup one, cells_eq toolkit documented, List.length_map, Screen.lit, List.length_map]
  rfl

theorem colours_counted (documented : toolkit.Documented) (before : Grid) (frames : List Screen) (last : Screen) :
    let shown := (toolkit.terminal before (frames ++ [last])).shown
    (boxPlaces shown (·.ink = .white)).card = whiteCells last ∧
      (boxPlaces shown (·.paper = .black)).card = blackCells last := by
  intro shown
  have same : shown = toolkit.render (picture last) emptyGrid := shown_after toolkit before frames last
  rw [same]
  have white : (boxPlaces (toolkit.render (picture last) emptyGrid) (·.ink = .white)).card = whiteCells last := by
    rw [white_places toolkit documented, card_cells toolkit documented]
  refine ⟨white, ?_⟩
  have rest : boxPlaces (toolkit.render (picture last) emptyGrid) (·.paper = .black) =
      boxPlaces (toolkit.render (picture last) emptyGrid) (¬ ·.ink = .white) := by
    ext ⟨column, row⟩
    rw [mem_box_places, mem_box_places]
    apply and_congr_right
    intro inside
    rw [ink_white_iff toolkit documented, paper_black_iff toolkit documented last column row inside]
  have total : (boxPlaces (toolkit.render (picture last) emptyGrid) (·.ink = .white)).card +
      (boxPlaces (toolkit.render (picture last) emptyGrid) (·.paper = .black)).card = boxWidth * boxHeight := by
    rw [rest, boxPlaces, boxPlaces, Finset.card_filter_add_card_filter_not, Finset.card_product, Finset.card_range,
      Finset.card_range]
  rw [white] at total
  exact Nat.eq_sub_of_add_eq' total

end Chip8.Terminal
