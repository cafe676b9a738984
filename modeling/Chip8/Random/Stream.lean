import Chip8.Random.ChaCha

set_option autoImplicit false

namespace Chip8

namespace Random

def advance (state : UInt64) : UInt64 :=
  state * 6364136223846793005 + 11634580027462260723

def permuted (state : UInt64) : UInt32 :=
  let folded := (((state >>> 18) ^^^ state) >>> 27).toUInt32
  let count := (state >>> 59).toUInt32
  folded >>> count ||| folded <<< ((32 - count) % 32)

def state (seed : UInt64) : Nat → UInt64
  | 0 => seed
  | n + 1 => advance (state seed n)

def key (seed : UInt64) : Key :=
  let word := fun n => permuted (state seed (n + 1))
  #v[word 0, word 1, word 2, word 3, word 4, word 5, word 6, word 7]

def wordOf (key : Key) (position : Nat) : UInt32 :=
  (block key (UInt64.ofNat (position / 16))).get (Nibble.low position)

def word (seed : UInt64) (position : Nat) : UInt32 :=
  wordOf (key seed) position

end Random

structure RandomStream where
  key : Random.Key
  position : Nat
deriving DecidableEq, Repr

namespace RandomStream

def ofSeed (seed : UInt64) : RandomStream :=
  ⟨Random.key seed, 0⟩

def byte (stream : RandomStream) : UInt8 :=
  (Random.wordOf stream.key stream.position).toUInt8

def next (stream : RandomStream) : RandomStream :=
  { stream with position := stream.position + 1 }

end RandomStream

end Chip8
