import ScriptAtlas.Instant.Basic

/-! The text of a moment: date, `T`, time, the shortest exact fraction in groups of three digits,
and `Z`. -/
namespace ScriptAtlas.Instant

/-- The decimal digits of a number, filled up with zeros to a width. -/
def padded (width value : Nat) : List Char :=
  let digits := Nat.toDigits 10 value
  List.replicate (width - digits.length) '0' ++ digits

/-- Years from 0 to 9999 have four digits, others also a sign. -/
def yearChars (year : Int) : List Char :=
  if 0 ≤ year ∧ year ≤ 9999 then padded 4 year.toNat
  else (if year < 0 then '-' else '+') :: padded 4 year.natAbs

/-- No fraction for whole seconds, else the fewest of 3, 6 or 9 digits that lose nothing. -/
def fractionChars (nano : Nat) : List Char :=
  if nano = 0 then []
  else if nano % 1000000 = 0 then '.' :: padded 3 (nano / 1000000)
  else if nano % 1000 = 0 then '.' :: padded 6 (nano / 1000)
  else '.' :: padded 9 nano

def chars (instant : Instant) : List Char :=
  let ⟨date, clock, _⟩ := instant
  yearChars date.year ++ '-' :: padded 2 date.month ++ '-' :: padded 2 date.day ++
    'T' :: padded 2 clock.hour ++ ':' :: padded 2 clock.minute ++
    ':' :: padded 2 (clock.second + clock.nano / 1000000000) ++
    fractionChars (clock.nano % 1000000000) ++ ['Z']

def render (instant : Instant) : String := String.ofList instant.chars

end ScriptAtlas.Instant
