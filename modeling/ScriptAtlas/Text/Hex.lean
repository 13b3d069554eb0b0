/-! Lower-case hexadecimal text of bytes. -/
namespace ScriptAtlas.Text.Hex

/-- The digit of a value below sixteen. -/
def digit (value : Nat) : Char :=
  if value < 10 then Char.ofNat (48 + value) else Char.ofNat (87 + value)

/-- Two digits, the high half first. -/
def pushByte (text : String) (byte : UInt8) : String :=
  (text.push (digit (byte.toNat / 16))).push (digit (byte.toNat % 16))

def ofBytes (bytes : List UInt8) : String := bytes.foldl pushByte ""

/-- The four bytes of a word, the least significant first. -/
def littleEndian (word : UInt32) : List UInt8 :=
  [word.toUInt8, (word >>> 8).toUInt8, (word >>> 16).toUInt8, (word >>> 24).toUInt8]

/-- The value of a hexadecimal digit in either case. -/
def value? (char : Char) : Option Nat :=
  if char.isDigit then some (char.toNat - 48)
  else if 'a' ≤ char ∧ char ≤ 'f' then some (char.toNat - 87)
  else if 'A' ≤ char ∧ char ≤ 'F' then some (char.toNat - 55)
  else none

/-- Read pairs of digits as bytes; an odd or foreign character refuses the whole text. -/
def toBytes? (digits : List Char) (bytes : ByteArray) : Option ByteArray :=
  match digits with
  | [] => some bytes
  | high :: low :: rest =>
    match value? high, value? low with
    | some upper, some lower => toBytes? rest (bytes.push (upper * 16 + lower).toUInt8)
    | _, _ => none
  | [_] => none

end ScriptAtlas.Text.Hex
