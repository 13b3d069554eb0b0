/-! Thirty-two bit words as digests use them: rotations and little-endian reading. -/
namespace ScriptAtlas.Digest

@[inline] def rotateLeft (word amount : UInt32) : UInt32 :=
  (word <<< amount) ||| (word >>> (32 - amount))

@[inline] def rotateRight (word amount : UInt32) : UInt32 :=
  (word >>> amount) ||| (word <<< (32 - amount))

/-- The byte at an offset, zero beyond the end. -/
@[inline] def byteAt (bytes : ByteArray) (offset : Nat) : UInt32 :=
  if inside : offset < bytes.size then bytes[offset].toUInt32 else 0

/-- The four bytes from an offset on, the least significant first. -/
def littleWord (bytes : ByteArray) (offset : Nat) : UInt32 :=
  byteAt bytes offset ||| (byteAt bytes (offset + 1) <<< 8) |||
    (byteAt bytes (offset + 2) <<< 16) ||| (byteAt bytes (offset + 3) <<< 24)

end ScriptAtlas.Digest
