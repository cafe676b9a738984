import Chip8.Host.Device
import Chip8.Text.Labelled
import Chip8.Text.Quoted

set_option autoImplicit false

namespace Chip8.Terminal

inductive NamedKey where
  | enter
  | tab
  | backTab
  | backspace
  | up
  | down
  | left
  | right
  | home
  | lineEnd
  | pageUp
  | pageDown
  | insert
  | delete
  | function (number : Nat)
  | null
deriving DecidableEq, Repr

def NamedKey.name : NamedKey → String
  | enter => "Enter"
  | tab => "Tab"
  | backTab => "BackTab"
  | backspace => "Backspace"
  | up => "Up"
  | down => "Down"
  | left => "Left"
  | right => "Right"
  | home => "Home"
  | lineEnd => "End"
  | pageUp => "PageUp"
  | pageDown => "PageDown"
  | insert => "Insert"
  | delete => "Delete"
  | function number => "F(" ++ toString number ++ ")"
  | null => "Null"

structure Modifiers where
  shift : Bool := false
  control : Bool := false
  alt : Bool := false
deriving DecidableEq, Repr

def Modifiers.names (modifiers : Modifiers) : List String :=
  (if modifiers.shift then ["SHIFT"] else []) ++ (if modifiers.control then ["CONTROL"] else []) ++
    (if modifiers.alt then ["ALT"] else [])

def Modifiers.text (modifiers : Modifiers) : String :=
  match modifiers.names with
  | [] => "NONE"
  | names => " | ".intercalate names

inductive MouseButton where
  | left
  | middle
  | right
deriving DecidableEq, Repr

def MouseButton.name : MouseButton → String
  | left => "Left"
  | middle => "Middle"
  | right => "Right"

inductive MouseAction where
  | press (button : MouseButton)
  | release (button : MouseButton)
  | drag (button : MouseButton)
  | move
  | scrollDown
  | scrollUp
deriving DecidableEq, Repr

def MouseAction.name : MouseAction → String
  | press button => "Down(" ++ button.name ++ ")"
  | release button => "Up(" ++ button.name ++ ")"
  | drag button => "Drag(" ++ button.name ++ ")"
  | move => "Moved"
  | scrollDown => "ScrollDown"
  | scrollUp => "ScrollUp"

structure MouseEvent where
  action : MouseAction
  column : Nat
  row : Nat
  modifiers : Modifiers := {}
deriving DecidableEq, Repr

def MouseEvent.text (event : MouseEvent) : String :=
  "Mouse(" ++
    Text.labelled "MouseEvent"
      [("kind", event.action.name), ("column", toString event.column), ("row", toString event.row),
        ("modifiers", event.modifiers.text)] ++
    ")"

inductive Event where
  | character (c : Char) (modifiers : Modifiers := {})
  | escape (modifiers : Modifiers := {})
  | named (key : NamedKey) (modifiers : Modifiers := {})
  | resize
  | mouse (event : MouseEvent)
deriving DecidableEq, Repr

def keyCharacters : List Char :=
  ['x', '1', '2', '3', 'q', 'w', 'e', 'a', 's', 'd', 'z', 'c', '4', 'r', 'f', 'v']

def keyOf (c : Char) : Option Nibble :=
  (keyCharacters.idxOf? c.toLower).map Nibble.low

def holdPolls : Nat := 6

-- For each key the coming polls at which it is down, the events that a poll that quit left behind, and for each coming
-- poll the events that have come in by then.
structure Keyboard where
  hold : Bank Nat := Bank.fill 0
  unread : List Event := []
  waiting : List (List Event)
deriving DecidableEq

structure Reading where
  hold : Bank Nat
  control : Control
  unread : List Event
  -- Newest first.
  entries : List LogEntry

-- Events are taken in order, up to an escape. Only a key that is ignored is recorded with its modifiers.
def readEvents (reading : Reading) : List Event → Reading
  | [] => reading
  | .escape _ :: rest => { reading with control := .quit, unread := rest }
  | .character c _ :: rest =>
      match keyOf c with
      | some key => readEvents { reading with hold := reading.hold.set key holdPolls } rest
      | none =>
          let entry : LogEntry := ⟨.debug, "can't map " ++ Text.quoted c ++ " to a CHIP-8 key"⟩
          readEvents { reading with entries := entry :: reading.entries } rest
  | .named key modifiers :: rest =>
      let event := Text.labelled "KeyEvent" [("code", key.name), ("modifiers", modifiers.text)]
      let entry : LogEntry := ⟨.debug, "ignoring key event " ++ event⟩
      readEvents { reading with entries := entry :: reading.entries } rest
  | .resize :: rest => readEvents reading rest
  | .mouse event :: rest =>
      let entry : LogEntry := ⟨.warn, "unknown event received: " ++ event.text⟩
      readEvents { reading with entries := entry :: reading.entries } rest

def setHeld (hold : Bank Nat) (keypad : Keypad) (key : Nibble) : Keypad :=
  keypad.set (UInt8.ofNat key.val) (decide (0 < hold.get key))

def report (hold : Bank Nat) (keypad : Keypad) : Keypad :=
  Nibble.all.foldl (setHeld hold) keypad

namespace Keyboard

def queue (keyboard : Keyboard) : List Event :=
  keyboard.unread ++ keyboard.waiting.headD []

-- The keys are set at every poll, also at one that quits.
def poll (keyboard : Keyboard) (keypad : Keypad) : Poll Keyboard :=
  let reading := readEvents ⟨keyboard.hold, .proceed, [], []⟩ keyboard.queue
  ⟨.ok reading.control, ⟨reading.hold.map (· - 1), reading.unread, keyboard.waiting.tail⟩,
    report reading.hold keypad, reading.entries.reverse⟩

instance : Input Keyboard := ⟨Keyboard.poll⟩

end Keyboard

end Chip8.Terminal
