import Chip8.Proofs.Host.Simulation

set_option autoImplicit false

namespace Chip8

-- The frames are oldest first. One that the display then failed to show is among them.
structure Filmed (δ : Type) where
  display : δ
  frames : List Screen

def Filmed.draw {δ : Type} [Display δ] (filmed : Filmed δ) (screen : Screen) : Filmed δ × Except IoError Unit :=
  let (display, shown) := Display.draw filmed.display screen
  (⟨display, filmed.frames ++ [screen]⟩, shown)

instance {δ : Type} [Display δ] : Display (Filmed δ) := ⟨Filmed.draw⟩

theorem filmed_draw {δ : Type} [Display δ] (filmed : Filmed δ) (screen : Screen) (display : δ)
    (shown : Except IoError Unit) (drawn : Display.draw filmed.display screen = (display, shown)) :
    Display.draw filmed screen = (⟨display, filmed.frames ++ [screen]⟩, shown) := by
  change Filmed.draw filmed screen = _
  rw [Filmed.draw, drawn]

namespace Host

variable {ι δ : Type}

def filmed (h : Host ι δ) : Host ι (Filmed δ) :=
  { h with display := ⟨h.display, []⟩ }

def unfilmed (h : Host ι (Filmed δ)) : Host ι δ :=
  { h with display := h.display.display }

theorem present_unfilmed [Display δ] (h : Host ι (Filmed δ)) : h.unfilmed.present = h.present.onState unfilmed := by
  cases drawn : Display.draw h.display.display h.machine.screen with
  | mk display shown =>
      have same : Display.draw h.unfilmed.display h.unfilmed.machine.screen = (display, shown) := drawn
      rw [present, present, same, filmed_draw h.display h.machine.screen display shown drawn]
      cases shown <;> rfl

theorem step_unfilmed (h : Host ι (Filmed δ)) : h.unfilmed.step = h.step.onState unfilmed := by
  have same : h.unfilmed.machine.step = h.machine.step := rfl
  rw [step, step, same]
  cases h.machine.step.result <;> rfl

theorem unfilmed_simulates [Display δ] :
    Simulation (fun _ => True) (unfilmed : Host ι (Filmed δ) → Host ι δ) where
  going := trivial
  config _ := rfl
  cycles _ := rfl
  input _ := rfl
  keypad _ := rfl
  note _ _ := rfl
  hear _ _ := rfl
  countdown _ := rfl
  ended _ := id
  notEnded _ _ := rfl
  step h _ := step_unfilmed h
  present := present_unfilmed

theorem run_unfilmed [Input ι] [Display δ] (limit : Nat) (h : Host ι (Filmed δ)) :
    h.unfilmed.run limit = (h.run limit).onState unfilmed :=
  unfilmed_simulates.run limit h trivial

theorem run_filmed [Input ι] [Display δ] (limit : Nat) (h : Host ι δ) :
    h.run limit = (h.filmed.run limit).onState unfilmed :=
  run_unfilmed limit h.filmed

end Host

end Chip8
