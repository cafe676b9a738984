import Chip8.Proofs.Screen.View
import Chip8.Proofs.Terminal.Buffer
import Chip8.Screen.Sprite
import Chip8.Terminal.Picture

set_option autoImplicit false

namespace Chip8.Terminal

structure Toolkit where
  -- The column and the row of the canvas at which a point is painted; none for a point that is left out.
  place : Picture → Int × Int → Option (Nat × Nat)
  -- A box in the corner: what becomes of a cell when it is drawn.
  box : Box → Nat → Nat → Cell → Cell

namespace Toolkit

def cells (toolkit : Toolkit) (p : Picture) : List (Nat × Nat) :=
  (p.points.filterMap (toolkit.place p)).map fun cell => (cell.1 + 1, cell.2 + 1)

def render (toolkit : Toolkit) (p : Picture) (buffer : Grid) : Grid := fun column row =>
  if (column, row) ∈ toolkit.cells p then ⟨'▄', .white, .usual⟩ else toolkit.box p.toBox column row (buffer column row)

def terminal (toolkit : Toolkit) (before : Grid) (frames : List Screen) : Buffered :=
  (Buffered.opened before).drawAll (frames.map fun screen => toolkit.render (picture screen))

end Toolkit

def borderMark (box : Box) (column row : Nat) : Option Char :=
  if row = 0 then
    some (if column = 0 then '┌' else if column + 1 = box.width then '┐' else box.title.toList.getD (column - 1) '─')
  else if row + 1 = box.height then
    some (if column = 0 then '└' else if column + 1 = box.width then '┘' else '─')
  else if column = 0 ∨ column + 1 = box.width then some '│'
  else none

-- A box on black ground; what it does not mark keeps its symbol.
def titledBox (box : Box) (column row : Nat) (under : Cell) : Cell :=
  if box.width ≤ column ∨ box.height ≤ row then under
  else ⟨(borderMark box column row).getD under.symbol, under.ink, .black⟩

-- What is known of a toolkit: how it paints on a canvas of 64 by 32 cells with these bounds, and what its boxes look
-- like.
structure Toolkit.Documented (toolkit : Toolkit) : Prop where
  paints : ∀ p : Picture, p.width = 66 → p.height = 34 → p.left = 0 → p.right = 63 → p.bottom = -31 → p.top = 0 →
    ∀ x y : Int, 0 ≤ x ∧ x ≤ 63 → -31 ≤ y ∧ y ≤ 0 → toolkit.place p (x, y) = some (x.toNat, (-y).toNat)
  boxes : ∀ box : Box, toolkit.box box = titledBox box

variable (toolkit : Toolkit)

theorem shown_after (before : Grid) (frames : List Screen) (last : Screen) :
    (toolkit.terminal before (frames ++ [last])).shown = toolkit.render (picture last) emptyGrid := by
  rw [Toolkit.terminal, List.map_append, List.map_singleton]
  exact Buffered.shown_last before _ _

theorem place_point (documented : toolkit.Documented) (screen : Screen) (x y : Nat) (column : x < 64) (row : y < 32) :
    toolkit.place (picture screen) ((x : Int), -(y : Int)) = some (x, y) := by
  have across : 0 ≤ (x : Int) ∧ (x : Int) ≤ 63 := by omega
  have down : -31 ≤ -(y : Int) ∧ -(y : Int) ≤ 0 := by omega
  have placed := documented.paints (picture screen) rfl rfl rfl rfl rfl rfl (x : Int) (-(y : Int)) across down
  rw [Int.neg_neg, Int.toNat_natCast, Int.toNat_natCast] at placed
  exact placed

theorem filter_map_back {α β : Type} (f : α → β) (back : β → Option α) (items : List α)
    (found : ∀ item ∈ items, back (f item) = some item) : (items.map f).filterMap back = items := by
  induction items with
  | nil => rfl
  | cons item rest ih =>
      have first := found item List.mem_cons_self
      have others := ih fun other member => found other (List.mem_cons_of_mem item member)
      rw [List.map_cons, List.filterMap_cons_some first, others]

-- Each lit pixel is painted in the cell below and to the right of its place, since the border comes first.
theorem cells_eq (documented : toolkit.Documented) (screen : Screen) :
    toolkit.cells (picture screen) = screen.lit.map fun pair => (pair.1 + 1, pair.2 + 1) := by
  have placed : ∀ pair ∈ screen.lit, toolkit.place (picture screen) ((pair.1 : Int), -(pair.2 : Int)) = some pair := by
    intro pair member
    obtain ⟨x, y⟩ := pair
    obtain ⟨column, row, _⟩ := (Screen.mem_lit_iff screen x y).mp member
    exact place_point toolkit documented screen x y column row
  have asked : (picture screen).points = points screen := by rw [picture]
  rw [Toolkit.cells, asked, points, filter_map_back _ _ screen.lit placed]

theorem mem_cells_iff (documented : toolkit.Documented) (screen : Screen) (column row : Nat) :
    (column, row) ∈ toolkit.cells (picture screen) ↔
      ∃ x y, (x < 64 ∧ y < 32 ∧ screen.isOn x y = true) ∧ column = x + 1 ∧ row = y + 1 := by
  rw [cells_eq toolkit documented, List.mem_map]
  constructor
  · rintro ⟨⟨x, y⟩, member, same⟩
    obtain ⟨rfl, rfl⟩ := Prod.mk.inj same
    exact ⟨x, y, (Screen.mem_lit_iff screen x y).mp member, rfl, rfl⟩
  · rintro ⟨x, y, on, rfl, rfl⟩
    exact ⟨(x, y), (Screen.mem_lit_iff screen x y).mpr on, rfl⟩

def emptyFrame : Grid := fun column row =>
  titledBox screenBox column row (emptyGrid column row)

theorem box_interior (x y : Nat) (column : x < 64) (row : y < 32) :
    emptyFrame (x + 1) (y + 1) = ⟨' ', .usual, .black⟩ := by
  have width : screenBox.width = 66 := rfl
  have height : screenBox.height = 34 := rfl
  have unmarked : borderMark screenBox (x + 1) (y + 1) = none := by
    rw [borderMark, width, height, if_neg (by omega), if_neg (by omega), if_neg (by omega)]
  rw [emptyFrame, titledBox, width, height, if_neg (by omega), unmarked]
  rfl

theorem rendered_interior (documented : toolkit.Documented) (screen : Screen) (x y : Nat) (column : x < 64)
    (row : y < 32) :
    toolkit.render (picture screen) emptyGrid (x + 1) (y + 1) =
      if screen.isOn x y then ⟨'▄', .white, .usual⟩ else ⟨' ', .usual, .black⟩ := by
  have painted : (x + 1, y + 1) ∈ toolkit.cells (picture screen) ↔ screen.isOn x y = true := by
    rw [mem_cells_iff toolkit documented]
    constructor
    · rintro ⟨a, b, ⟨_, _, on⟩, across, down⟩
      obtain rfl : x = a := Nat.succ.inj across
      obtain rfl : y = b := Nat.succ.inj down
      exact on
    · intro on
      exact ⟨x, y, ⟨column, row, on⟩, rfl, rfl⟩
  have ground : toolkit.box (picture screen).toBox (x + 1) (y + 1) (emptyGrid (x + 1) (y + 1)) =
      ⟨' ', .usual, .black⟩ := by
    rw [documented.boxes]
    exact box_interior x y column row
  simp only [Toolkit.render, painted, ground]

theorem rendered_outside (documented : toolkit.Documented) (screen : Screen) (column row : Nat)
    (outside : column = 0 ∨ 65 ≤ column ∨ row = 0 ∨ 33 ≤ row) :
    toolkit.render (picture screen) emptyGrid column row = emptyFrame column row := by
  have unpainted : (column, row) ∉ toolkit.cells (picture screen) := by
    rw [mem_cells_iff toolkit documented]
    rintro ⟨x, y, ⟨across, down, _⟩, rfl, rfl⟩
    omega
  rw [Toolkit.render, if_neg unpainted, documented.boxes]
  rfl

def Window.drawAll (window : Window) (frames : List Screen) : Window :=
  frames.foldl (fun window screen => (Display.draw window screen).1) window

theorem window_last (window : Window) (frames : List Screen) (last : Screen) :
    (window.drawAll (frames ++ [last])).lines = frameLines last := by
  rw [Window.drawAll, List.foldl_append]
  rfl

def gridLine (grid : Grid) (row : Nat) : String :=
  String.ofList ((List.range 66).map fun column => (grid column row).symbol)

theorem box_side (column row : Nat) (side : column = 0 ∨ column = 65) (inside : row < 32) :
    (emptyFrame column (row + 1)).symbol = '│' := by
  have width : screenBox.width = 66 := rfl
  have height : screenBox.height = 34 := rfl
  have marked : borderMark screenBox column (row + 1) = some '│' := by
    rw [borderMark, width, height, if_neg (by omega), if_neg (by omega), if_pos (by omega)]
  rw [emptyFrame, titledBox, width, height, if_neg (by omega), marked]
  rfl

theorem top_line_grid : topLine = gridLine emptyFrame 0 := by
  have title : "CHIP-8".toList = ['C', 'H', 'I', 'P', '-', '8'] := rfl
  apply String.toList_inj.mp
  simp only [gridLine, topLine, emptyFrame, titledBox, borderMark, screenBox, String.toList_append,
    String.toList_ofList, title]
  rfl

theorem bottom_line_grid : bottomLine = gridLine emptyFrame 33 := by
  apply String.toList_inj.mp
  rw [gridLine, String.toList_ofList]
  decide +kernel

theorem edge_line_grid (documented : toolkit.Documented) (screen : Screen) (row : Nat) (edge : row = 0 ∨ row = 33) :
    gridLine (toolkit.render (picture screen) emptyGrid) row = gridLine emptyFrame row := by
  have same : ∀ column, toolkit.render (picture screen) emptyGrid column row = emptyFrame column row := by
    intro column
    exact rendered_outside toolkit documented screen column row (by omega)
  simp only [gridLine, same]

theorem pixel_line_grid (documented : toolkit.Documented) (screen : Screen) (y : Nat) (row : y < 32) :
    pixelLine screen y = gridLine (toolkit.render (picture screen) emptyGrid) (y + 1) := by
  have columns : List.range 66 = 0 :: ((List.range 64).map (· + 1) ++ [65]) := rfl
  have left : (toolkit.render (picture screen) emptyGrid 0 (y + 1)).symbol = '│' := by
    rw [rendered_outside toolkit documented screen 0 (y + 1) (by omega), box_side 0 y (by omega) row]
  have right : (toolkit.render (picture screen) emptyGrid 65 (y + 1)).symbol = '│' := by
    rw [rendered_outside toolkit documented screen 65 (y + 1) (by omega), box_side 65 y (by omega) row]
  have inside : (List.range 64).map (fun x => (toolkit.render (picture screen) emptyGrid (x + 1) (y + 1)).symbol) =
      (Screen.line '▄' ' ' screen y).toList := by
    rw [Screen.line_list]
    apply List.map_congr_left
    intro x member
    rw [rendered_interior toolkit documented screen x y (List.mem_range.mp member) row]
    cases screen.isOn x y <;> rfl
  apply String.toList_inj.mp
  rw [gridLine, String.toList_ofList, columns, List.map_cons, List.map_append, List.map_map, List.map_singleton, left,
    right]
  have side : "│".toList = ['│'] := rfl
  simp only [Function.comp_def, inside, pixelLine, String.toList_append, side, List.cons_append, List.nil_append]

theorem frame_lines_grid (documented : toolkit.Documented) (screen : Screen) :
    frameLines screen = (List.range 34).map (gridLine (toolkit.render (picture screen) emptyGrid)) := by
  have rows : List.range 34 = 0 :: ((List.range 32).map (· + 1) ++ [33]) := rfl
  have top := edge_line_grid toolkit documented screen 0 (by omega)
  have bottom := edge_line_grid toolkit documented screen 33 (by omega)
  have inside : (List.range 32).map (pixelLine screen) =
      (List.range 32).map fun y => gridLine (toolkit.render (picture screen) emptyGrid) (y + 1) := by
    apply List.map_congr_left
    intro y member
    exact pixel_line_grid toolkit documented screen y (List.mem_range.mp member)
  rw [rows, List.map_cons, List.map_append, List.map_map, List.map_singleton, top, bottom, ← top_line_grid,
    ← bottom_line_grid]
  change [topLine] ++ (List.range 32).map (pixelLine screen) ++ [bottomLine] = _
  rw [inside]
  rfl

theorem all_views_agree :
    (∀ s : Screen,
      (∀ x y, (x, y) ∈ s.lit ↔ x < 64 ∧ y < 32 ∧ s.isOn x y = true) ∧
      s.lit.Pairwise Screen.RowMajor ∧
      (∀ x y, s.isOn x y = s.isOn (x % 64) (y % 32)) ∧
      s.text.toList.length = 2080 ∧
      (∀ x y, x < 64 → y < 32 → s.text.toList[65 * y + x]? = some (if s.isOn x y then '#' else '.')) ∧
      (∀ y, y < 32 → s.text.toList[65 * y + 64]? = some '\n') ∧
      s.snapshot.length = 2048 ∧
      (∀ x y, x < 64 → y < 32 → s.snapshot[64 * y + x]? = some (if s.isOn x y then 0xFFFFFFFF else 0)) ∧
      ∀ t : Screen, ((∀ x y, s.isOn x y = t.isOn x y) → s = t) ∧ (s.lit = t.lit → s = t) ∧ (s.text = t.text → s = t) ∧
        (s.snapshot = t.snapshot → s = t)) ∧
    (∀ toolkit : Toolkit, toolkit.Documented → ∀ (before : Grid) (frames : List Screen) (last : Screen),
      let shown := (toolkit.terminal before (frames ++ [last])).shown
      (∀ x y, x < 64 → y < 32 → (shown (x + 1) (y + 1)).symbol = if last.isOn x y then '▄' else ' ') ∧
      (∀ column row, column = 0 ∨ 65 ≤ column ∨ row = 0 ∨ 33 ≤ row → shown column row = emptyFrame column row) ∧
      ∀ window : Window, (window.drawAll (frames ++ [last])).lines = (List.range 34).map (gridLine shown)) := by
  refine ⟨?_, ?_⟩
  · intro s
    refine ⟨s.mem_lit_iff, s.lit_row_major, s.is_on_wraps, s.length_text, s.text_get, s.text_row_end,
      s.length_snapshot, s.snapshot_get, ?_⟩
    intro t
    refine ⟨?_, Screen.lit_determines s t, Screen.text_determines s t, Screen.snapshot_determines s t⟩
    intro same
    exact Screen.eq_of_is_on s t fun x y _ _ => same x y
  · intro toolkit documented before frames last shown
    have same : shown = toolkit.render (picture last) emptyGrid := shown_after toolkit before frames last
    rw [same]
    refine ⟨?_, rendered_outside toolkit documented last, ?_⟩
    · intro x y column row
      rw [rendered_interior toolkit documented last x y column row]
      cases last.isOn x y <;> rfl
    · intro window
      rw [window_last, frame_lines_grid toolkit documented last]

def rasterPlace (p : Picture) (point : Int × Int) : Option (Nat × Nat) :=
  if point.1 < p.left ∨ p.right < point.1 ∨ point.2 < p.bottom ∨ p.top < point.2 then none
  else some (((point.1 - p.left) * ((p.width : Int) - 3) / (p.right - p.left)).toNat,
    ((p.top - point.2) * ((p.height : Int) - 3) / (p.top - p.bottom)).toNat)

def raster : Toolkit where
  place := rasterPlace
  box := titledBox

theorem raster_documented : raster.Documented where
  paints := by
    intro p width height left right bottom top x y across down
    have inside : ¬ (x < 0 ∨ 63 < x ∨ y < -31 ∨ 0 < y) := by omega
    change rasterPlace p (x, y) = _
    simp only [rasterPlace, width, height, left, right, bottom, top, if_neg inside]
    congr 3
    · omega
    · omega
  boxes := fun _ => rfl

def middle : Screen :=
  (Screen.blank.draw 10 4 [0x81]).1

def corner : Screen :=
  (Screen.blank.draw 62 31 [0xE0, 0x80]).1

def littered : Grid := fun _ _ => ⟨'$', .white, .usual⟩

theorem corner_replaces_middle :
    raster.Documented ∧ (raster.terminal littered [middle]).shown 11 5 = ⟨'▄', .white, .usual⟩ ∧
      ((raster.terminal littered [middle, corner]).shown 11 5).symbol = ' ' ∧
      ((raster.terminal littered [middle, corner]).shown 63 32).symbol = '▄' ∧
      ((raster.terminal littered [middle, corner]).shown 1 32).symbol = '▄' ∧
      ((raster.terminal littered [middle, corner]).shown 65 32).symbol = '│' ∧
      (raster.terminal littered [middle, corner]).shown 66 0 = ⟨' ', .usual, .usual⟩ ∧
      corner.text.toList[65 * 31 + 62]? = some '#' ∧ (62, 0) ∈ corner.lit := by
  obtain ⟨views, terminal⟩ := all_views_agree
  obtain ⟨pairs, _, _, _, marks, _⟩ := views corner
  obtain ⟨inside, outside, _⟩ := terminal raster raster_documented littered [middle] corner
  have first : (raster.terminal littered [middle]).shown 11 5 = ⟨'▄', .white, .usual⟩ := by decide +kernel
  have gone : corner.isOn 10 4 = false := by decide +kernel
  have last : corner.isOn 62 31 = true := by decide +kernel
  have wrapped : corner.isOn 0 31 = true := by decide +kernel
  have above : corner.isOn 62 0 = true := by decide +kernel
  have erased := inside 10 4 (by decide) (by decide)
  have lit := inside 62 31 (by decide) (by decide)
  have around := inside 0 31 (by decide) (by decide)
  have border := congrArg Cell.symbol (outside 65 32 (by decide))
  have beyond := outside 66 0 (by decide)
  have mark := marks 62 31 (by decide) (by decide)
  rw [gone] at erased
  rw [last] at lit mark
  rw [wrapped] at around
  exact ⟨raster_documented, first, erased, lit, around, border, beyond, mark,
    (pairs 62 0).mpr ⟨by decide, by decide, above⟩⟩

end Chip8.Terminal
