import Again.Lib.Table

/-!
# Little-endian words in fixed buffers

A kernel record is a buffer `[u8; N]` read at constant offsets.
-/

namespace Again.Lib

/-- The byte at `i`; constant offsets never leave the buffer. -/
def byteAt {n : Nat} (buffer : Table n UInt8) (i : Nat) : UInt8 :=
  if h : i < n then buffer ⟨i, h⟩ else 0

/-- The `width` bytes from `offset` on, least significant first. -/
def readLe {n : Nat} (buffer : Table n UInt8) (offset : Nat) : Nat → Nat
  | 0 => 0
  | width + 1 => (byteAt buffer offset).toNat + 256 * readLe buffer (offset + 1) width

end Again.Lib
