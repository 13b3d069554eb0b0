import ScriptAtlas.Digest.Word
import ScriptAtlas.Text.Hex

/-! The BLAKE3 hash of a byte sequence: chunks of 1024 bytes are the leaves of a binary tree whose
left subtrees are complete. A state is four rows of four words, mixed by columns and diagonals. -/
namespace ScriptAtlas.Digest.Blake3

/-- Four words of a state row, worked on in parallel. -/
structure Row where
  a : UInt32
  b : UInt32
  c : UInt32
  d : UInt32
deriving DecidableEq

@[inline] def Row.add (left right : Row) : Row :=
  ⟨left.a + right.a, left.b + right.b, left.c + right.c, left.d + right.d⟩

@[inline] def Row.xor (left right : Row) : Row :=
  ⟨left.a ^^^ right.a, left.b ^^^ right.b, left.c ^^^ right.c, left.d ^^^ right.d⟩

@[inline] def Row.rotate (row : Row) (amount : UInt32) : Row :=
  ⟨rotateRight row.a amount, rotateRight row.b amount, rotateRight row.c amount,
    rotateRight row.d amount⟩

def Row.words (row : Row) : List UInt32 := [row.a, row.b, row.c, row.d]

/-- Two rows: a chaining value of eight words. -/
structure Chain where
  upper : Row
  lower : Row
deriving DecidableEq

def Chain.start : Chain :=
  ⟨⟨0x6a09e667, 0xbb67ae85, 0x3c6ef372, 0xa54ff53a⟩,
    ⟨0x510e527f, 0x9b05688c, 0x1f83d9ab, 0x5be0cd19⟩⟩

/-- Sixteen message words, in the order in which a round takes them. -/
structure Message where
  first : Row
  second : Row
  third : Row
  fourth : Row
deriving DecidableEq

/-- The fixed permutation of the message words between two rounds. -/
def Message.permute (message : Message) : Message :=
  let ⟨⟨m0, m1, m2, m3⟩, ⟨m4, m5, m6, m7⟩, ⟨_, m9, m10, m11⟩, ⟨m12, m13, m14, m15⟩⟩ := message
  ⟨⟨m2, m6, m3, m10⟩, ⟨m7, m0, m4, m13⟩, ⟨m1, m11, m12, m5⟩, ⟨m9, m14, m15, message.third.a⟩⟩

/-- The four rows of a compression state. -/
structure State where
  top : Row
  upper : Row
  lower : Row
  bottom : Row
deriving DecidableEq

/-- Mix the four columns at once, taking two message words for each. -/
@[inline] def State.mix (state : State) (even odd : Row) : State :=
  let top := (state.top.add state.upper).add even
  let bottom := (state.bottom.xor top).rotate 16
  let lower := state.lower.add bottom
  let upper := (state.upper.xor lower).rotate 12
  let top := (top.add upper).add odd
  let bottom := (bottom.xor top).rotate 8
  let lower := lower.add bottom
  let upper := (upper.xor lower).rotate 7
  ⟨top, upper, lower, bottom⟩

/-- Bring the diagonals into the columns. -/
@[inline] def State.slant (state : State) : State :=
  let ⟨top, ⟨u0, u1, u2, u3⟩, ⟨l0, l1, l2, l3⟩, ⟨b0, b1, b2, b3⟩⟩ := state
  ⟨top, ⟨u1, u2, u3, u0⟩, ⟨l2, l3, l0, l1⟩, ⟨b3, b0, b1, b2⟩⟩

/-- Undo `State.slant`. -/
@[inline] def State.unslant (state : State) : State :=
  let ⟨top, ⟨u0, u1, u2, u3⟩, ⟨l0, l1, l2, l3⟩, ⟨b0, b1, b2, b3⟩⟩ := state
  ⟨top, ⟨u3, u0, u1, u2⟩, ⟨l2, l3, l0, l1⟩, ⟨b1, b2, b3, b0⟩⟩

/-- One round: columns take the first eight words, diagonals the last eight. -/
def State.round (state : State) (message : Message) : State :=
  let ⟨⟨m0, m1, m2, m3⟩, ⟨m4, m5, m6, m7⟩, ⟨m8, m9, m10, m11⟩, ⟨m12, m13, m14, m15⟩⟩ := message
  let columns := state.mix ⟨m0, m2, m4, m6⟩ ⟨m1, m3, m5, m7⟩
  (columns.slant.mix ⟨m8, m10, m12, m14⟩ ⟨m9, m11, m13, m15⟩).unslant

/-- Run rounds, permuting the message after each. -/
def State.rounds : Nat → State → Message → State
  | 0, state, _ => state
  | count + 1, state, message => State.rounds count (state.round message) message.permute

/-- What a compression works on besides the chaining value. -/
structure Block where
  message : Message
  counter : UInt64
  length : UInt32
  flags : UInt32
deriving DecidableEq

def chunkStart : UInt32 := 1
def chunkEnd : UInt32 := 2
def parentFlag : UInt32 := 4
def rootFlag : UInt32 := 8

/-- Seven rounds, then the two halves of the state are folded together. -/
def Chain.compress (chain : Chain) (block : Block) : Chain :=
  let bottom : Row :=
    ⟨block.counter.toUInt32, (block.counter >>> 32).toUInt32, block.length, block.flags⟩
  let state := State.rounds 7 ⟨chain.upper, chain.lower, Chain.start.upper, bottom⟩ block.message
  ⟨state.top.xor state.lower, state.upper.xor state.bottom⟩

/-- A tree node whose last compression is still to be done, since the root's has its own flag. -/
structure Output where
  chain : Chain
  block : Block
deriving DecidableEq

def Output.value (output : Output) : Chain := output.chain.compress output.block

/-- The chaining value of the root; its counter is zero. -/
def Output.root (output : Output) : Chain :=
  output.chain.compress
    { output.block with counter := 0, flags := output.block.flags ||| rootFlag }

/-- The sixteen words from `offset` on; beyond the end of the input they are zero. -/
def messageAt (bytes : ByteArray) (offset : Nat) : Message :=
  let word (i : Nat) := littleWord bytes (offset + 4 * i)
  ⟨⟨word 0, word 1, word 2, word 3⟩, ⟨word 4, word 5, word 6, word 7⟩,
    ⟨word 8, word 9, word 10, word 11⟩, ⟨word 12, word 13, word 14, word 15⟩⟩

/-- Absorb the blocks of a chunk up to its last one, which stays to be finished. -/
def chunk (bytes : ByteArray) (counter : UInt64) (chain : Chain) (opening : UInt32)
    (offset length : Nat) : Output :=
  let block (size : Nat) (flags : UInt32) : Block :=
    ⟨messageAt bytes offset, counter, size.toUInt32, flags⟩
  if 64 < length then
    chunk bytes counter (chain.compress (block 64 opening)) 0 (offset + 64) (length - 64)
  else ⟨chain, block length (opening ||| chunkEnd)⟩
termination_by length

/-- A parent node hashes the chaining values of its two children. -/
def parent (left right : Chain) : Output :=
  ⟨Chain.start, ⟨⟨left.upper, left.lower, right.upper, right.lower⟩, 0, 64, parentFlag⟩⟩

/-- The length of the left subtree: the largest power of two of chunks that leaves something
over. -/
def leftLength (length : Nat) : Nat := 1024 * Nat.pow 2 ((length - 1) / 1024).log2

theorem leftLength_lt {length : Nat} (large : 1024 < length) : leftLength length < length := by
  have nonzero : (length - 1) / 1024 ≠ 0 := by omega
  have below : Nat.pow 2 ((length - 1) / 1024).log2 ≤ (length - 1) / 1024 :=
    Nat.log2_self_le nonzero
  unfold leftLength
  omega

theorem leftLength_pos (length : Nat) : 0 < leftLength length :=
  Nat.mul_pos (by decide) (Nat.two_pow_pos _)

/-- The node over `length` bytes from `offset` on, whose first chunk has the number `counter`. -/
def subtree (bytes : ByteArray) (counter offset length : Nat) : Output :=
  if 1024 < length then
    let left := leftLength length
    parent (subtree bytes counter offset left).value
      (subtree bytes (counter + left / 1024) (offset + left) (length - left)).value
  else chunk bytes counter.toUInt64 Chain.start chunkStart offset length
termination_by length
decreasing_by
  · exact leftLength_lt ‹_›
  · exact Nat.sub_lt (by omega) (leftLength_pos length)

/-- The hash of a byte sequence in lower-case hexadecimal. -/
def hex (bytes : ByteArray) : String :=
  let root := (subtree bytes 0 0 bytes.size).root
  Text.Hex.ofBytes ((root.upper.words ++ root.lower.words).flatMap Text.Hex.littleEndian)

end ScriptAtlas.Digest.Blake3
