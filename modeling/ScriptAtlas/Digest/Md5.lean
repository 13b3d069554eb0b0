import ScriptAtlas.Digest.Word
import ScriptAtlas.Text.Hex

/-! The MD5 message digest, which names symbols: sixty-four steps on four words per block. -/
namespace ScriptAtlas.Digest.Md5

/-- The four chaining words. -/
structure State where
  a : UInt32
  b : UInt32
  c : UInt32
  d : UInt32
deriving DecidableEq

def State.start : State := ⟨0x67452301, 0xefcdab89, 0x98badcfe, 0x10325476⟩

def State.add (left right : State) : State :=
  ⟨left.a + right.a, left.b + right.b, left.c + right.c, left.d + right.d⟩

/-- The integer parts of 2^32 times the sines of 1, 2, ..., 64 radians, without sign. -/
def sines : List UInt32 := [
  0xd76aa478, 0xe8c7b756, 0x242070db, 0xc1bdceee,
  0xf57c0faf, 0x4787c62a, 0xa8304613, 0xfd469501,
  0x698098d8, 0x8b44f7af, 0xffff5bb1, 0x895cd7be,
  0x6b901122, 0xfd987193, 0xa679438e, 0x49b40821,
  0xf61e2562, 0xc040b340, 0x265e5a51, 0xe9b6c7aa,
  0xd62f105d, 0x02441453, 0xd8a1e681, 0xe7d3fbc8,
  0x21e1cde6, 0xc33707d6, 0xf4d50d87, 0x455a14ed,
  0xa9e3e905, 0xfcefa3f8, 0x676f02d9, 0x8d2a4c8a,
  0xfffa3942, 0x8771f681, 0x6d9d6122, 0xfde5380c,
  0xa4beea44, 0x4bdecfa9, 0xf6bb4b60, 0xbebfbc70,
  0x289b7ec6, 0xeaa127fa, 0xd4ef3085, 0x04881d05,
  0xd9d4d039, 0xe6db99e5, 0x1fa27cf8, 0xc4ac5665,
  0xf4292244, 0x432aff97, 0xab9423a7, 0xfc93a039,
  0x655b59c3, 0x8f0ccc92, 0xffeff47d, 0x85845dd1,
  0x6fa87e4f, 0xfe2ce6e0, 0xa3014314, 0x4e0811a1,
  0xf7537e82, 0xbd3af235, 0x2ad7d2bb, 0xeb86d391]

/-- The rotation of a step: each round of sixteen repeats its own four. -/
def rotation (step : Nat) : UInt32 :=
  match step / 16, step % 4 with
  | 0, 0 => 7 | 0, 1 => 12 | 0, 2 => 17 | 0, _ => 22
  | 1, 0 => 5 | 1, 1 => 9 | 1, 2 => 14 | 1, _ => 20
  | 2, 0 => 4 | 2, 1 => 11 | 2, 2 => 16 | 2, _ => 23
  | _, 0 => 6 | _, 1 => 10 | _, 2 => 15 | _, _ => 21

/-- The mixing function of a step and the message word that it takes. -/
def mixing (state : State) (step : Nat) : UInt32 × Nat :=
  match step / 16 with
  | 0 => ((state.b &&& state.c) ||| (~~~state.b &&& state.d), step)
  | 1 => ((state.d &&& state.b) ||| (~~~state.d &&& state.c), (5 * step + 1) % 16)
  | 2 => (state.b ^^^ state.c ^^^ state.d, (3 * step + 5) % 16)
  | _ => (state.c ^^^ (state.b ||| ~~~state.d), (7 * step) % 16)

/-- One step on the block that begins at `offset`. -/
def State.step (bytes : ByteArray) (offset : Nat) (state : State) (sine : UInt32 × Nat) : State :=
  let (mixed, word) := mixing state sine.2
  let sum := mixed + state.a + sine.1 + littleWord bytes (offset + 4 * word)
  ⟨state.d, state.b + rotateLeft sum (rotation sine.2), state.b, state.c⟩

/-- Absorb the block that begins at `offset`. -/
def State.absorb (bytes : ByteArray) (state : State) (offset : Nat) : State :=
  state.add (sines.zipIdx.foldl (State.step bytes offset) state)

/-- The message, one set bit, zeros up to eight bytes below a block's end, and the bit length. -/
def pad (message : ByteArray) : ByteArray :=
  let zeros := (119 - message.size % 64) % 64
  let marked := (List.replicate zeros (0 : UInt8)).foldl ByteArray.push (message.push 0x80)
  (List.range 8).foldl (fun bytes i => bytes.push ((message.size * 8) >>> (8 * i)).toUInt8) marked

/-- The digest of a message in lower-case hexadecimal. -/
def hex (message : ByteArray) : String :=
  let padded := pad message
  let blocks := (List.range (padded.size / 64)).map (64 * ·)
  let state := blocks.foldl (State.absorb padded) State.start
  Text.Hex.ofBytes ([state.a, state.b, state.c, state.d].flatMap Text.Hex.littleEndian)

end ScriptAtlas.Digest.Md5
