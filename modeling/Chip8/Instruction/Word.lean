import Chip8.Bank

set_option autoImplicit false

namespace Chip8

abbrev Word := UInt16

namespace Word

def family (w : Word) : Nibble :=
  Nibble.low (w.toNat / 4096)

def x (w : Word) : Nibble :=
  Nibble.low (w.toNat / 256)

def y (w : Word) : Nibble :=
  Nibble.low (w.toNat / 16)

def n (w : Word) : Nibble :=
  Nibble.low w.toNat

def kk (w : Word) : UInt8 :=
  UInt8.ofNat w.toNat

def nnn (w : Word) : Fin 4096 :=
  Fin.ofNat 4096 w.toNat

end Word

end Chip8
