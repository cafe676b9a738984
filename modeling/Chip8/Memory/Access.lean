import Chip8.Failure
import Chip8.Memory.Basic

set_option autoImplicit false

namespace Chip8

namespace Mode

def readCell (mode : Mode) (addr : UInt16) : Except Failure Memory.Cell :=
  match mode with
  | .lenient => .ok (Memory.cellAt addr)
  | .strict =>
      if Memory.InGlyphs addr.toNat ∨ Memory.InProgram addr.toNat then .ok (Memory.cellAt addr)
      else .error (.outOfRange addr)

-- The cell that a write at `addr` changes; a dropped write changes none.
def writeCell (mode : Mode) (addr : UInt16) : Except Failure (Option Memory.Cell) :=
  match mode with
  | .lenient =>
      let cell := Memory.cellAt addr
      .ok (if Memory.InGlyphs cell.val then none else some cell)
  | .strict =>
      if Memory.InProgram addr.toNat then .ok (some (Memory.cellAt addr)) else .error (.outOfRange addr)

-- The cells of the high and the low byte of the instruction at `addr`. Range is checked before parity.
def fetchCells (mode : Mode) (addr : UInt16) : Except Failure (Memory.Cell × Memory.Cell) :=
  match mode with
  | .lenient => .ok (Memory.cellAt addr, Memory.cellAt (addr + 1))
  | .strict =>
      if addr.toNat < Memory.programStart ∨ Memory.programEnd ≤ addr.toNat + 1 then .error (.outOfRange addr)
      else if addr.toNat % 2 ≠ 0 then .error (.misalignedFetch addr)
      else .ok (Memory.cellAt addr, Memory.cellAt (addr + 1))

def droppedCells (mode : Mode) (start : UInt16) (count : Nat) : List Memory.Cell :=
  match mode with
  | .lenient => ((Memory.addresses start count).map Memory.cellAt).filter fun cell => Memory.InGlyphs cell.val
  | .strict => []

end Mode

namespace Memory

def fetch (m : Memory) (addr : UInt16) : Except Failure UInt16 :=
  (m.mode.fetchCells addr).map fun cells =>
    UInt16.ofNat ((m.cell cells.1).toNat * 256 + (m.cell cells.2).toNat)

def readByte (m : Memory) (addr : UInt16) : Except Failure UInt8 :=
  (m.mode.readCell addr).map m.cell

def read (m : Memory) (start : UInt16) (count : Nat) : Except Failure (List UInt8) :=
  (addresses start count).mapM m.readByte

def storeAll (m : Memory) (targets : List (Option Cell × UInt8)) : Memory :=
  targets.foldl
    (fun memory target =>
      match target.1 with
      | some cell => memory.setCell cell target.2
      | none => memory)
    m

def writeByte (m : Memory) (addr : UInt16) (byte : UInt8) : Memory × Except Failure Unit :=
  match m.mode.writeCell addr with
  | .error failure => (m, .error failure)
  | .ok target => (m.storeAll [(target, byte)], .ok ())

-- Write consecutive bytes. Every address is checked before the first byte is stored.
def write (m : Memory) (start : UInt16) (data : List UInt8) : Memory × Except Failure Unit :=
  match (addresses start data.length).mapM m.mode.writeCell with
  | .error failure => (m, .error failure)
  | .ok targets => (m.storeAll (targets.zip data), .ok ())

end Memory

end Chip8
