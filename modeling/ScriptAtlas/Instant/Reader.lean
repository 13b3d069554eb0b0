import ScriptAtlas.Instant.Basic
import ScriptAtlas.Text.Trim

/-! Reading a moment from a date-time text with an offset. The reader is lenient: blanks may stand
before every part, leading zeros may be left out, and the zone may be written `UTC`. -/
namespace ScriptAtlas.Instant

/-- The value of a run of decimal digits. -/
def digitsValue (digits : List Char) : Nat :=
  digits.foldl (fun value digit => value * 10 + (digit.toNat - 48)) 0

def skipBlanks (chars : List Char) : List Char := chars.dropWhile Text.isBlank

/-- At least one and at most `limit` digits at the front. -/
def digits? (limit : Nat) (chars : List Char) : Option (List Char × List Char) :=
  let run := (chars.take limit).takeWhile Char.isDigit
  if run.isEmpty then none else some (run, chars.drop run.length)

/-- A number of at most `limit` digits after any blanks. -/
def number? (limit : Nat) (chars : List Char) : Option (Nat × List Char) :=
  (digits? limit (skipBlanks chars)).map fun (run, rest) => (digitsValue run, rest)

/-- A year after any blanks: with a sign it may have any number of digits, else at most four. -/
def year? (chars : List Char) : Option (Int × List Char) :=
  match skipBlanks chars with
  | '-' :: rest =>
    (digits? rest.length rest).map fun (run, rest) => (-(digitsValue run : Int), rest)
  | '+' :: rest =>
    (digits? rest.length rest).map fun (run, rest) => ((digitsValue run : Int), rest)
  | rest => (digits? 4 rest).map fun (run, rest) => ((digitsValue run : Int), rest)

/-- One given mark after any blanks. -/
def mark? (mark : Char) (chars : List Char) : Option (List Char) :=
  match skipBlanks chars with
  | [] => none
  | char :: rest => if char = mark then some rest else none

def date? (chars : List Char) : Option (Date × List Char) := do
  let (year, rest) ← year? chars
  let (month, rest) ← number? 2 (← mark? '-' rest)
  let (day, rest) ← number? 2 (← mark? '-' rest)
  return (⟨year, month, day⟩, rest)

/-- A fraction of a second in nanoseconds; digits after the ninth do not count. -/
def fraction? (chars : List Char) : Option (Nat × List Char) :=
  match chars with
  | '.' :: rest =>
    (digits? 9 rest).map fun (run, rest) =>
      (digitsValue run * Nat.pow 10 (9 - run.length), rest.dropWhile Char.isDigit)
  | _ => some (0, chars)

/-- A time of day; the second may be 60. -/
def clock? (chars : List Char) : Option (Clock × List Char) := do
  let (hour, rest) ← number? 2 chars
  let (minute, rest) ← number? 2 (← mark? ':' rest)
  let (second, rest) ← number? 2 (← mark? ':' rest)
  let (nano, rest) ← fraction? rest
  if second = 60 then return (⟨hour, minute, 59, nano + 1000000000⟩, rest)
  else return (⟨hour, minute, second, nano⟩, rest)

/-- Two digits right at the front. -/
def pair? : List Char → Option (Nat × List Char)
  | tens :: ones :: rest =>
    if tens.isDigit && ones.isDigit then some (digitsValue [tens, ones], rest) else none
  | _ => none

/-- An offset without its sign, in minutes: hours, any colons or blanks, minutes. -/
def span? (chars : List Char) : Option (Nat × List Char) := do
  let (hours, rest) ← pair? chars
  let (minutes, rest) ← pair? (rest.dropWhile fun char => char == ':' || Text.isBlank char)
  if minutes < 60 && hours < 24 then return (hours * 60 + minutes, rest) else none

/-- The offset from universal time in minutes; the minus sign may be a hyphen or U+2212. -/
def offset? (chars : List Char) : Option (Int × List Char) :=
  match skipBlanks chars with
  | 'Z' :: rest | 'z' :: rest => some (0, rest)
  | '+' :: rest => (span? rest).map fun (minutes, rest) => ((minutes : Int), rest)
  | '-' :: rest | '\u2212' :: rest =>
    (span? rest).map fun (minutes, rest) => (-(minutes : Int), rest)
  | first :: second :: third :: rest =>
    if [first.toUpper, second.toUpper, third.toUpper] = ['U', 'T', 'C'] then some (0, rest)
    else none
  | _ => none

/-- The letter or the blank between date and time. -/
def divider? : List Char → Option (List Char)
  | 'T' :: rest | 't' :: rest | ' ' :: rest => some rest
  | _ => none

/-- Read a moment; nothing but blanks may follow it. -/
def parse? (text : String) : Option Instant := do
  let (date, rest) ← date? text.toList
  let (clock, rest) ← clock? (← divider? rest)
  let (offset, rest) ← offset? rest
  if (skipBlanks rest).isEmpty then ofLocal? date clock offset else none

end ScriptAtlas.Instant
