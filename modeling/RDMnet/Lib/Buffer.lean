import RDMnet.Lib.Bytes

/-!
# Buffers that are read at offsets

A buffer is the byte at each offset, so that a read behind the end of what was received is a read like
any other.
-/

namespace RDMnet

abbrev Buf := Nat → UInt8

namespace Buf

/-- The big-endian 16-bit field at offset `i`. -/
def u16 (buf : Buf) (i : Nat) : UInt16 := UInt16.ofNat ((buf i).toNat * 256 + (buf (i + 1)).toNat)

/-- The big-endian 32-bit field at offset `i`. -/
def u32 (buf : Buf) (i : Nat) : UInt32 :=
  UInt32.ofNat ((buf.u16 i).toNat * 65536 + (buf.u16 (i + 2)).toNat)

/-- The `len` bytes at offset `i`. -/
def slice (buf : Buf) (i len : Nat) : Bytes := (List.range len).map fun j => buf (i + j)

/-- A buffer that begins with these bytes, and is 0 behind them. -/
def ofBytes (d : Bytes) : Buf := u8At d

end Buf

end RDMnet
