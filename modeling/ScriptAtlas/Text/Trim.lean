/-! Removing unwanted characters from the two ends of a text. -/
namespace ScriptAtlas.Text

/-- The longest inner part of a character list that neither begins nor ends with an unwanted one. -/
def trimList (unwanted : Char → Bool) (chars : List Char) : List Char :=
  ((chars.dropWhile unwanted).reverse.dropWhile unwanted).reverse

/-- Drop unwanted characters at both ends. -/
def trim (unwanted : Char → Bool) (text : String) : String :=
  String.ofList (trimList unwanted text.toList)

/-- The code points with the Unicode property White_Space. -/
def isBlank (char : Char) : Bool :=
  let code := char.toNat
  (0x09 ≤ code && code ≤ 0x0D) || code == 0x20 || code == 0x85 || code == 0xA0 ||
    code == 0x1680 || (0x2000 ≤ code && code ≤ 0x200A) || code == 0x2028 || code == 0x2029 ||
    code == 0x202F || code == 0x205F || code == 0x3000

/-- A single or a double quotation mark. -/
def isQuote (char : Char) : Bool := char == '\x27' || char == '\x22'

end ScriptAtlas.Text
