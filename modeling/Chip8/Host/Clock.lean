set_option autoImplicit false

namespace Chip8

structure Clock where
  rate : UInt32
  -- Ticks a second, never zero.
  ticks : UInt32
  carry : UInt32
deriving DecidableEq, Repr

namespace Clock

def start (rate ticks : UInt32) : Clock :=
  ⟨rate, if ticks = 0 then 1 else ticks, 0⟩

def batch (c : Clock) : UInt32 :=
  (c.carry + c.rate) / c.ticks

def next (c : Clock) : Clock :=
  { c with carry := (c.carry + c.rate) % c.ticks }

end Clock

end Chip8
