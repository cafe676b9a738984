import Chip8.Memory.Access

set_option autoImplicit false

namespace Chip8.Memory

-- What one read of a program image delivers. An empty chunk is the end of the image.
inductive Delivery where
  | bytes (chunk : List UInt8)
  | interrupted
  | failed (error : IoError)
deriving DecidableEq, Repr

-- The bytes before the end of the image. An interrupted read is made again; a failing one ends it all.
def collect : List Delivery → Except IoError (List UInt8)
  | [] => .ok []
  | .bytes [] :: _ => .ok []
  | .bytes chunk :: rest => (collect rest).map (chunk ++ ·)
  | .interrupted :: rest => collect rest
  | .failed error :: _ => .error error

def load (m : Memory) (program : List UInt8) : Memory × Except Failure Unit :=
  if program.length ≤ programLimit then
    let image := program.toArray
    let cells := Cells.ofFn 12 fun i =>
      if InProgram i then image.getD (i - programStart) 0 else m.cell (Cell.low i)
    ({ m with cells := cells }, .ok ())
  else (m, .error (.programTooLarge program.length programLimit))

def image (deliveries : List Delivery) : Except Failure (List UInt8) :=
  (collect deliveries).mapError .io

def loadFrom (m : Memory) (deliveries : List Delivery) : Memory × Except Failure Unit :=
  match image deliveries with
  | .error failure => (m, .error failure)
  | .ok program => m.load program

end Chip8.Memory
