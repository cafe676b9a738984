import Chip8.Bank

set_option autoImplicit false

namespace Chip8.Random

abbrev Block := Bank UInt32

abbrev Key := Vector UInt32 8

def rotateLeft (word count : UInt32) : UInt32 :=
  word <<< count ||| word >>> (32 - count)

def quarterRound (b : Block) (i j k l : Nibble) : Block :=
  let p := b.get i + b.get j
  let s := rotateLeft (b.get l ^^^ p) 16
  let r := b.get k + s
  let q := rotateLeft (b.get j ^^^ r) 12
  let p := p + q
  let s := rotateLeft (s ^^^ p) 8
  let r := r + s
  let q := rotateLeft (q ^^^ r) 7
  (((b.set i p).set j q).set k r).set l s

def quarters : List (Nat × Nat × Nat × Nat) :=
  [(0, 4, 8, 12), (1, 5, 9, 13), (2, 6, 10, 14), (3, 7, 11, 15),
   (0, 5, 10, 15), (1, 6, 11, 12), (2, 7, 8, 13), (3, 4, 9, 14)]

def doubleRound (b : Block) : Block :=
  quarters.foldl
    (fun b (i, j, k, l) => quarterRound b (Nibble.low i) (Nibble.low j) (Nibble.low k) (Nibble.low l)) b

def constants : List UInt32 :=
  [0x61707865, 0x3320646E, 0x79622D32, 0x6B206574]

-- The block before mixing: constants, key, the counter low word first, and a zero nonce.
def start (key : Key) (counter : UInt64) : Block :=
  let words := constants ++ key.toList ++ [counter.toUInt32, (counter >>> 32).toUInt32, 0, 0]
  Bank.ofFn fun x => words.getD x.val 0

def block (key : Key) (counter : UInt64) : Block :=
  let before := start key counter
  let mixed := (List.range 6).foldl (fun b _ => doubleRound b) before
  Bank.ofFn fun x => mixed.get x + before.get x

end Chip8.Random
