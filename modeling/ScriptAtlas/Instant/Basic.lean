/-! Moments in universal time, as a calendar date and a time of day. -/
namespace ScriptAtlas

/-- A day of the proleptic Gregorian calendar. -/
structure Date where
  year : Int
  month : Nat
  day : Nat
deriving DecidableEq

namespace Date

def isLeap (year : Int) : Bool := year % 4 == 0 && (year % 100 != 0 || year % 400 == 0)

def daysIn (year : Int) (month : Nat) : Nat :=
  match month with
  | 4 | 6 | 9 | 11 => 30
  | 2 => if isLeap year then 29 else 28
  | _ => 31

/-- The years that can be represented. -/
def inRange (year : Int) : Bool := -262143 ≤ year && year ≤ 262142

def isValid (date : Date) : Bool :=
  inRange date.year && 1 ≤ date.month && date.month ≤ 12 && 1 ≤ date.day &&
    date.day ≤ daysIn date.year date.month

def next (date : Date) : Date :=
  if date.day < daysIn date.year date.month then { date with day := date.day + 1 }
  else if date.month < 12 then ⟨date.year, date.month + 1, 1⟩
  else ⟨date.year + 1, 1, 1⟩

def previous (date : Date) : Date :=
  if 1 < date.day then { date with day := date.day - 1 }
  else if 1 < date.month then ⟨date.year, date.month - 1, daysIn date.year (date.month - 1)⟩
  else ⟨date.year - 1, 12, 31⟩

end Date

/-- A time of day. A leap second is the second 59 with a further thousand million nanoseconds. -/
structure Clock where
  hour : Nat
  minute : Nat
  second : Nat
  nano : Nat
deriving DecidableEq

def Clock.isValid (clock : Clock) : Bool :=
  clock.hour < 24 && clock.minute < 60 && clock.second < 60 &&
    (clock.nano < 1000000000 || (clock.second == 59 && clock.nano < 2000000000))

/-- A moment in universal time whose date and time of day exist. -/
structure Instant where
  date : Date
  clock : Clock
  valid : (date.isValid && clock.isValid) = true
deriving DecidableEq

namespace Instant

/-- The moment that a local date and time denote at an offset from universal time, in minutes, of
less than a day. -/
def ofLocal? (date : Date) (clock : Clock) (offset : Int) : Option Instant :=
  if date.isValid && clock.isValid then
    let minutes : Int := clock.hour * 60 + clock.minute - offset
    let day := if minutes < 0 then date.previous else if minutes < 1440 then date else date.next
    let time := (minutes % 1440).toNat
    let moved : Clock := { clock with hour := time / 60, minute := time % 60 }
    if valid : (day.isValid && moved.isValid) = true then some ⟨day, moved, valid⟩ else none
  else none

end Instant
end ScriptAtlas
