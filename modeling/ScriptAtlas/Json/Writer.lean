import ScriptAtlas.Json.Basic
import ScriptAtlas.Text.Hex

/-! The compact text of a JSON value: no blanks, members in their order, and the fewest escapes. -/
namespace ScriptAtlas.Json

/-- How a character is written inside a string: quotation marks, backslashes and control
characters are escaped, anything else stands for itself. -/
def escape (char : Char) : List Char :=
  if char = '\x22' then ['\\', '\x22']
  else if char = '\\' then ['\\', '\\']
  else if char = '\x08' then ['\\', 'b']
  else if char = '\x0c' then ['\\', 'f']
  else if char = '\n' then ['\\', 'n']
  else if char = '\x0d' then ['\\', 'r']
  else if char = '\t' then ['\\', 't']
  else if char.toNat < 0x20 then
    ['\\', 'u', '0', '0', Text.Hex.digit (char.toNat / 16), Text.Hex.digit (char.toNat % 16)]
  else [char]

/-- A text between quotation marks. -/
def quote (text : String) : List Char :=
  '\x22' :: text.toList.flatMap escape ++ ['\x22']

/-- A number without fraction is written in digits, any other with its power of ten. -/
def numeral (mantissa : Int) : Nat → List Char
  | 0 => (toString mantissa).toList
  | exponent + 1 => (toString mantissa).toList ++ 'e' :: '-' :: (toString (exponent + 1)).toList

mutual
/-- The characters of a value. -/
def chars : Json → List Char
  | .null => "null".toList
  | .bool true => "true".toList
  | .bool false => "false".toList
  | .number mantissa exponent => numeral mantissa exponent
  | .string text => quote text
  | .array items => '[' :: itemChars items ++ [']']
  | .object members => '\x7b' :: memberChars members ++ ['\x7d']

/-- The items of an array with commas between them. -/
def itemChars : List Json → List Char
  | [] => []
  | [item] => item.chars
  | item :: next :: rest => item.chars ++ ',' :: itemChars (next :: rest)

/-- The members of an object with commas between them. -/
def memberChars : List (String × Json) → List Char
  | [] => []
  | [(key, value)] => quote key ++ ':' :: value.chars
  | (key, value) :: next :: rest =>
    quote key ++ ':' :: value.chars ++ ',' :: memberChars (next :: rest)
end

/-- The compact text of a value. -/
def compact (json : Json) : String := String.ofList json.chars

end ScriptAtlas.Json
