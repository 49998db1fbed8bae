import TokenAuth.Calendar
import TokenAuth.Instant
import TokenAuth.Text.Blank
import TokenAuth.Text.Decimal

/-!
Instants as RFC 3339 text. Instants are written in UTC with the fewest of 0, 3, 6 or 9 places that
show the fraction; a leap second is written as second 60 and a year outside 0 to 9999 with a sign.
Reading is laxer: any offset in whole minutes, blanks around the numbers, a space for the T, any
number of places.
-/
namespace TokenAuth.Rfc3339

open Text

def renderYear (year : Int) : List Char :=
  if 0 ≤ year ∧ year ≤ 9999 then padded 4 year.toNat
  else (if year < 0 then '-' else '+') :: padded 4 year.natAbs

def renderFraction (nanos : Nat) : List Char :=
  if nanos = 0 then []
  else if nanos % 1000000 = 0 then '.' :: padded 3 (nanos / 1000000)
  else if nanos % 1000 = 0 then '.' :: padded 6 (nanos / 1000)
  else '.' :: padded 9 nanos

def render (t : Instant) : List Char :=
  let date := CalendarDate.ofDayNumber (t.seconds / 86400)
  let second := (t.seconds % 86400).toNat
  renderYear date.year ++ '-' :: padded 2 date.month ++ '-' :: padded 2 date.day ++
    'T' :: padded 2 (second / 3600) ++ ':' :: padded 2 (second / 60 % 60) ++
    ':' :: padded 2 (second % 60 + t.nanos / 1000000000) ++
    renderFraction (t.nanos % 1000000000) ++ ['Z']

/-- At least one digit and at most `most`. -/
def readNumber (most : Nat) (cs : List Char) : Option (Nat × List Char) :=
  match (cs.take most).takeWhile isDigit with
  | [] => none
  | ds => some (numberOf ds, cs.drop ds.length)

def readChar (c : Char) : List Char → Option (List Char)
  | [] => none
  | d :: r => if d = c then some r else none

/-- A year without a sign has at most four digits. -/
def readYear (cs : List Char) : Option (Int × List Char) :=
  match cs with
  | '-' :: r => (readNumber r.length r).map fun p => (-(p.1 : Int), p.2)
  | '+' :: r => (readNumber r.length r).map fun p => ((p.1 : Int), p.2)
  | r => (readNumber 4 r).map fun p => ((p.1 : Int), p.2)

def readDate (cs : List Char) : Option (CalendarDate × List Char) := do
  let (year, cs) ← readYear (trimStart cs)
  let cs ← readChar '-' (trimStart cs)
  let (month, cs) ← readNumber 2 (trimStart cs)
  let cs ← readChar '-' (trimStart cs)
  let (day, cs) ← readNumber 2 (trimStart cs)
  pure (⟨year, month, day⟩, cs)

/-- Nanoseconds after a point; places past the ninth are skipped. -/
def readFraction : List Char → Option (Nat × List Char)
  | '.' :: r =>
    match r.takeWhile isDigit with
    | [] => none
    | ds =>
      let used := ds.take 9
      some (numberOf used * Nat.pow 10 (9 - used.length), r.drop ds.length)
  | r => some (0, r)

structure ClockReading where
  hour : Nat
  minute : Nat
  second : Nat
  nanos : Nat

namespace ClockReading

def Exists (c : ClockReading) : Prop := c.hour ≤ 23 ∧ c.minute ≤ 59 ∧ c.second ≤ 60

instance (c : ClockReading) : Decidable c.Exists := inferInstanceAs (Decidable (_ ∧ _))

/-- Seconds since midnight; second 60 is the second half of second 59. -/
def secondOfDay (c : ClockReading) : Nat := c.hour * 3600 + c.minute * 60 + min c.second 59

def nanosOfSecond (c : ClockReading) : Nat := c.nanos + if c.second = 60 then 1000000000 else 0

end ClockReading

def readClock (cs : List Char) : Option (ClockReading × List Char) := do
  let (hour, cs) ← readNumber 2 (trimStart cs)
  let cs ← readChar ':' (trimStart cs)
  let (minute, cs) ← readNumber 2 (trimStart cs)
  let cs ← readChar ':' (trimStart cs)
  let (second, cs) ← readNumber 2 (trimStart cs)
  let (nanos, cs) ← readFraction cs
  pure (⟨hour, minute, second, nanos⟩, cs)

/-- Two digits of hours and two of minutes, with colons or blanks between them, in seconds. -/
def readHoursMinutes : List Char → Option (Int × List Char)
  | h₁ :: h₂ :: r =>
    match r.dropWhile (fun c => c == ':' || isBlank c) with
    | m₁ :: m₂ :: r =>
      if isDigit h₁ ∧ isDigit h₂ ∧ isDigit m₁ ∧ isDigit m₂ ∧ digitValue m₁ ≤ 5 then
        some (((numberOf [h₁, h₂] * 3600 + numberOf [m₁, m₂] * 60 : Nat) : Int), r)
      else none
    | _ => none
  | _ => none

/-- Seconds east of UTC. A true minus sign does for the hyphen. -/
def readOffset : List Char → Option (Int × List Char)
  | 'Z' :: r => some (0, r)
  | 'z' :: r => some (0, r)
  | '+' :: r => readHoursMinutes r
  | '-' :: r => (readHoursMinutes r).map fun p => (-p.1, p.2)
  | '\u2212' :: r => (readHoursMinutes r).map fun p => (-p.1, p.2)
  | c₁ :: c₂ :: c₃ :: r =>
    if [c₁.toUpper, c₂.toUpper, c₃.toUpper] = ['U', 'T', 'C'] then some (0, r) else none
  | _ => none

/-- The instant of a local date and clock reading. The local year must be in range as well. -/
def instantOf? (date : CalendarDate) (clock : ClockReading) (offset : Int) : Option Instant :=
  if date.Exists ∧ -262143 ≤ date.year ∧ date.year ≤ 262142 ∧ clock.Exists ∧
      -86400 < offset ∧ offset < 86400 then
    Instant.ofParts? (date.dayNumber * 86400 + clock.secondOfDay - offset) clock.nanosOfSecond
  else none

def read? (cs : List Char) : Option Instant := do
  let (date, cs) ← readDate cs
  match cs with
  | [] => none
  | c :: cs =>
    if c = 'T' ∨ c = 't' ∨ c = ' ' then
      let (clock, cs) ← readClock cs
      let (offset, cs) ← readOffset (trimStart cs)
      if trimStart cs = [] then instantOf? date clock offset else none
    else none

end TokenAuth.Rfc3339
