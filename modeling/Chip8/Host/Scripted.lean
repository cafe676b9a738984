import Chip8.Host.Device

set_option autoImplicit false

namespace Chip8

structure HeldKeys where
  keys : List UInt8
  -- Polls before it quits; none for never.
  pollsLeft : Option Nat := none
deriving DecidableEq, Repr

def HeldKeys.poll (held : HeldKeys) (keypad : Keypad) : Poll HeldKeys :=
  match held.pollsLeft with
  | some 0 => ⟨.ok .quit, held, keypad, []⟩
  | some (n + 1) => ⟨.ok .proceed, { held with pollsLeft := some n }, Keypad.holding held.keys, []⟩
  | none => ⟨.ok .proceed, held, Keypad.holding held.keys, []⟩

instance : Input HeldKeys := ⟨HeldKeys.poll⟩

inductive Cue where
  | keys (keys : List UInt8)
  | quit
  | failed (text : String)
deriving DecidableEq, Repr

structure Script where
  cues : List Cue
deriving DecidableEq, Repr

def Script.poll (script : Script) (keypad : Keypad) : Poll Script :=
  match script.cues with
  | [] => ⟨.ok .quit, script, keypad, []⟩
  | .keys keys :: rest => ⟨.ok .proceed, ⟨rest⟩, Keypad.holding keys, []⟩
  | .quit :: rest => ⟨.ok .quit, ⟨rest⟩, keypad, []⟩
  | .failed text :: rest => ⟨.error (.told text), ⟨rest⟩, keypad, []⟩

instance : Input Script := ⟨Script.poll⟩

-- A display that keeps every frame it is shown. With a failing point it refuses while it holds exactly that
-- many frames.
structure Recorder where
  frames : Array Screen := #[]
  failsAt : Option Nat := none
deriving DecidableEq

def Recorder.draw (recorder : Recorder) (screen : Screen) : Recorder × Except IoError Unit :=
  if recorder.failsAt = some recorder.frames.size then (recorder, .error (.told "display gone"))
  else ({ recorder with frames := recorder.frames.push screen }, .ok ())

instance : Display Recorder := ⟨Recorder.draw⟩

end Chip8
