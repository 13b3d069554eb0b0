/-! UTF-8 as a sequence of pieces: a scalar value, a faulty run, or a run that the end of
the input cuts short. Validation and tolerant decoding read the same pieces. -/
namespace ScriptAtlas.Text.Utf8

/-- What a lead byte announces: how many continuation bytes follow and the bounds of the first. -/
structure Lead where
  owed : Nat
  lowest : UInt8 := 0x80
  highest : UInt8 := 0xBF
deriving DecidableEq

/-- Overlong forms, surrogates and values above U+10FFFF are excluded by the bounds. -/
def lead? (byte : UInt8) : Option Lead :=
  if byte < 0x80 then some { owed := 0 }
  else if byte < 0xC2 then none
  else if byte < 0xE0 then some { owed := 1 }
  else if byte = 0xE0 then some { owed := 2, lowest := 0xA0 }
  else if byte = 0xED then some { owed := 2, highest := 0x9F }
  else if byte < 0xF0 then some { owed := 2 }
  else if byte = 0xF0 then some { owed := 3, lowest := 0x90 }
  else if byte < 0xF4 then some { owed := 3 }
  else if byte = 0xF4 then some { owed := 3, highest := 0x8F }
  else none

/-- The bits of the scalar value that a lead byte carries. -/
def Lead.payload (lead : Lead) (byte : UInt8) : Nat :=
  match lead.owed with
  | 0 => byte.toNat
  | 1 => byte.toNat % 0x20
  | 2 => byte.toNat % 0x10
  | _ => byte.toNat % 0x08

/-- One step of reading: what stands at an offset and how many bytes it takes. -/
inductive Piece where
  | scalar (value : Char) (extra : Nat)
  | fault (extra : Nat)
  | cut (extra : Nat)
deriving DecidableEq

/-- Every piece takes at least one byte. -/
def Piece.length : Piece → Nat
  | .scalar _ extra | .fault extra | .cut extra => extra + 1

/-- Read the owed continuation bytes after `taken` of them; the first has its own bounds. -/
def continuation (bytes : ByteArray) (offset : Nat) (lowest highest : UInt8) :
    (owed taken value : Nat) → Piece
  | 0, taken, value => .scalar (Char.ofNat value) taken
  | owed + 1, taken, value =>
    match bytes[offset + 1 + taken]? with
    | none => .cut taken
    | some byte =>
      if lowest ≤ byte && byte ≤ highest then
        continuation bytes offset 0x80 0xBF owed (taken + 1) (value * 0x40 + byte.toNat % 0x40)
      else .fault taken

/-- The piece that begins with `byte` at `offset`. -/
def piece (bytes : ByteArray) (offset : Nat) (byte : UInt8) : Piece :=
  match lead? byte with
  | none => .fault 0
  | some lead => continuation bytes offset lead.lowest lead.highest lead.owed 0 (lead.payload byte)

/-- Where a byte sequence stops being UTF-8: the length of its longest valid beginning, and the
length of the faulty run, which is absent when the input ends inside an unfinished sequence. -/
structure Fault where
  validUpTo : Nat
  length? : Option Nat
deriving DecidableEq

/-- The first fault at or after `offset`. -/
def faultFrom? (bytes : ByteArray) (offset : Nat) : Option Fault :=
  if inside : offset < bytes.size then
    match piece bytes offset bytes[offset] with
    | .scalar _ extra => faultFrom? bytes (offset + (extra + 1))
    | .fault extra => some ⟨offset, some (extra + 1)⟩
    | .cut _ => some ⟨offset, none⟩
  else none
termination_by bytes.size - offset

/-- The first fault of a byte sequence, if it is not UTF-8. -/
def fault? (bytes : ByteArray) : Option Fault := faultFrom? bytes 0

/-- Decode from `offset` on, writing U+FFFD for each faulty or unfinished run. -/
def decodeFrom (bytes : ByteArray) (offset : Nat) (text : String) : String :=
  if inside : offset < bytes.size then
    match piece bytes offset bytes[offset] with
    | .scalar value extra => decodeFrom bytes (offset + (extra + 1)) (text.push value)
    | .fault extra => decodeFrom bytes (offset + (extra + 1)) (text.push '\uFFFD')
    | .cut _ => text.push '\uFFFD'
  else text
termination_by bytes.size - offset

/-- Decode any byte sequence; valid text is taken as it stands. -/
def decode (bytes : ByteArray) : String :=
  match String.fromUTF8? bytes with
  | some text => text
  | none => decodeFrom bytes 0 ""

end ScriptAtlas.Text.Utf8
