set_option autoImplicit false

namespace Chip8.Terminal

inductive Colour where
  | usual
  | white
  | black
deriving DecidableEq

structure Cell where
  symbol : Char
  ink : Colour
  paper : Colour
deriving DecidableEq

abbrev Grid := Nat → Nat → Cell

def emptyGrid : Grid := fun _ _ => ⟨' ', .usual, .usual⟩

-- A terminal that is drawn through two buffers: the next frame is rendered into one while the other keeps the last.
structure Buffered where
  shown : Grid
  previous : Grid
  current : Grid

namespace Buffered

def clear (terminal : Buffered) : Buffered :=
  { terminal with shown := emptyGrid, previous := emptyGrid }

def opened (before : Grid) : Buffered :=
  clear ⟨before, emptyGrid, emptyGrid⟩

-- Only the cells that differ from the last frame are written.
def flush (terminal : Buffered) : Buffered :=
  { terminal with shown := fun column row =>
      if terminal.current column row = terminal.previous column row then terminal.shown column row
      else terminal.current column row }

-- The frame that was drawn becomes the last one, and the buffer of the one before it is emptied for the next.
def swap (terminal : Buffered) : Buffered :=
  { terminal with previous := terminal.current, current := emptyGrid }

def draw (terminal : Buffered) (render : Grid → Grid) : Buffered :=
  { terminal with current := render terminal.current }.flush.swap

def drawAll (terminal : Buffered) (frames : List (Grid → Grid)) : Buffered :=
  frames.foldl draw terminal

structure Settled (terminal : Buffered) : Prop where
  shown : terminal.shown = terminal.previous
  current : terminal.current = emptyGrid

theorem opened_settled (before : Grid) : (opened before).Settled := ⟨rfl, rfl⟩

theorem draw_settled (terminal : Buffered) (render : Grid → Grid) (settled : terminal.Settled) :
    (terminal.draw render).Settled ∧ (terminal.draw render).shown = render emptyGrid := by
  have written : (terminal.draw render).shown = render emptyGrid := by
    funext column row
    change (if render terminal.current column row = terminal.previous column row then terminal.shown column row
      else render terminal.current column row) = _
    rw [settled.current, settled.shown]
    by_cases same : render emptyGrid column row = terminal.previous column row
    · rw [if_pos same, same]
    · rw [if_neg same]
  refine ⟨⟨?_, rfl⟩, written⟩
  rw [written, ← settled.current]
  rfl

theorem draw_all_settled (terminal : Buffered) (frames : List (Grid → Grid)) (settled : terminal.Settled) :
    (terminal.drawAll frames).Settled := by
  induction frames generalizing terminal with
  | nil => exact settled
  | cons render rest ih => exact ih (terminal.draw render) (draw_settled terminal render settled).1

theorem shown_last (before : Grid) (frames : List (Grid → Grid)) (last : Grid → Grid) :
    ((opened before).drawAll (frames ++ [last])).shown = last emptyGrid := by
  have settled := draw_all_settled (opened before) frames (opened_settled before)
  rw [drawAll, List.foldl_append]
  exact (draw_settled _ last settled).2

end Buffered

end Chip8.Terminal
