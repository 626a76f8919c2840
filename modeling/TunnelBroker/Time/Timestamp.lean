/-
  TunnelBroker.Time.Timestamp — moments in UTC with nanoseconds, and their RFC 3339 text.

  A moment in a leap second is in second 59 of its minute with 10^9 nanoseconds or more.

  - `Timestamp.text`: `2025-03-01T12:00:00.5Z` with 0, 3, 6 or 9 digits of fraction, the fewest that are
    exact; years outside of 0 to 9999 have a sign.
  - `Timestamp.read?`: the same form, or with an offset from UTC. Blanks may stand around the parts, `T` may
    be a blank, months, days and times may have one digit.
-/

import TunnelBroker.Text.Blank
import TunnelBroker.Text.Decimal
import TunnelBroker.Time.Calendar

namespace TunnelBroker.Time

open TunnelBroker.Text (isDigit ofDigits digitsOf isBlank powerOfTen)

def billion : Nat := 1000000000

/-- The first and the last second of the years in which a moment can lie. -/
def firstSecond : Int := 86400 * yearStart (-262143)
def lastSecond : Int := 86400 * yearStart 262143 - 1

structure Timestamp where
  /-- Seconds since 1970-01-01T00:00:00Z. -/
  seconds : Int
  nanos : Nat
  inRange : firstSecond ≤ seconds ∧ seconds ≤ lastSecond
  nanos_lt : nanos < billion ∨ (nanos < 2 * billion ∧ seconds % 60 = 59)
  deriving DecidableEq, Repr

namespace Timestamp

/-- The moment with these seconds and nanoseconds, if there is one. -/
def make? (seconds : Int) (nanos : Nat) : Option Timestamp :=
  if h : firstSecond ≤ seconds ∧ seconds ≤ lastSecond then
    if h' : nanos < billion ∨ (nanos < 2 * billion ∧ seconds % 60 = 59) then some ⟨seconds, nanos, h, h'⟩
    else none
  else none

/-- The start of the year 1970. -/
def epoch : Timestamp := ⟨0, 0, by decide, by decide⟩

instance : Inhabited Timestamp := ⟨epoch⟩

def before (s t : Timestamp) : Bool :=
  s.seconds < t.seconds || (s.seconds == t.seconds && s.nanos < t.nanos)

/-! ## Printing -/

/-- The digits of `n`, with zeros before them up to `width`. -/
def padded (width n : Nat) : List Char :=
  let digits := digitsOf n
  List.replicate (width - digits.length) '0' ++ digits

def yearChars (year : Int) : List Char :=
  if 0 ≤ year ∧ year ≤ 9999 then padded 4 year.toNat
  else (if year < 0 then '-' else '+') :: padded 4 year.natAbs

/-- The fraction of a second, in groups of three digits. -/
def fractionChars (nanos : Nat) : List Char :=
  if nanos = 0 then []
  else if nanos % 1000000 = 0 then '.' :: padded 3 (nanos / 1000000)
  else if nanos % 1000 = 0 then '.' :: padded 6 (nanos / 1000)
  else '.' :: padded 9 nanos

/-- The second of the minute, 60 in a leap second, and the nanoseconds in it. -/
def secondParts (t : Timestamp) : Nat × Nat :=
  let second := (t.seconds % 60).toNat
  if billion ≤ t.nanos then (second + 1, t.nanos - billion) else (second, t.nanos)

def chars (t : Timestamp) : List Char :=
  let date := Date.ofDayNumber (t.seconds / 86400)
  let time := (t.seconds % 86400).toNat
  let (second, nanos) := t.secondParts
  yearChars date.year ++ '-' :: padded 2 date.month ++ '-' :: padded 2 date.day ++
    'T' :: padded 2 (time / 3600) ++ ':' :: padded 2 (time / 60 % 60) ++
    ':' :: padded 2 second ++ fractionChars nanos ++ ['Z']

def text (t : Timestamp) : String := String.ofList t.chars

end Timestamp

/-! ## Reading -/

def skipBlanks (cs : List Char) : List Char := cs.dropWhile isBlank

/-- A number of one to `most` digits after blanks, and the text after it. -/
def readDigits? (most : Nat) (cs : List Char) : Option (Nat × List Char) :=
  let cs := skipBlanks cs
  let digits := (cs.take most).takeWhile isDigit
  if digits.isEmpty then none else some (ofDigits digits, cs.drop digits.length)

/-- A number in a range, of at most two digits. -/
def readPart? (low high : Nat) (cs : List Char) : Option (Nat × List Char) := do
  let (n, rest) ← readDigits? 2 cs
  if low ≤ n ∧ n ≤ high then some (n, rest) else none

/-- Any number of digits, at least one. -/
def readAllDigits? (cs : List Char) : Option (Nat × List Char) :=
  let digits := cs.takeWhile isDigit
  if digits.isEmpty then none else some (ofDigits digits, cs.dropWhile isDigit)

/-- A year of up to four digits, or of any length after a sign. -/
def readYear? (cs : List Char) : Option (Int × List Char) :=
  match skipBlanks cs with
  | '-' :: rest => (readAllDigits? rest).map fun (n, rest) => (-(n : Int), rest)
  | '+' :: rest => (readAllDigits? rest).map fun (n, rest) => ((n : Int), rest)
  | cs => (readDigits? 4 cs).map fun (n, rest) => ((n : Int), rest)

/-- The text after `c`, before which there may be blanks. -/
def readMark? (c : Char) (cs : List Char) : Option (List Char) :=
  match skipBlanks cs with
  | d :: rest => if d = c then some rest else none
  | [] => none

/-- The fraction of a second in nanoseconds, if the text starts with a point; digits after the ninth do
not count. -/
def readNanos? : List Char → Option (Nat × List Char)
  | '.' :: rest =>
    let digits := rest.takeWhile isDigit
    let used := digits.take 9
    if digits.isEmpty then none
    else some (ofDigits used * powerOfTen (9 - used.length), rest.dropWhile isDigit)
  | cs => some (0, cs)

def readTwoDigits? : List Char → Option (Nat × List Char)
  | a :: b :: rest => if isDigit a && isDigit b then some (ofDigits [a, b], rest) else none
  | _ => none

/-- The sign of an offset: `+`, `-` or the minus sign of mathematics. -/
def readSign? : List Char → Option (Int × List Char)
  | c :: rest => if c = '+' then some (1, rest) else if c = '-' ∨ c = '−' then some (-1, rest) else none
  | [] => none

/-- An offset from UTC in seconds: `Z`, `UTC`, or hours and minutes of less than a day. -/
def readOffset? (cs : List Char) : Option (Int × List Char) :=
  match cs with
  | 'Z' :: rest => some (0, rest)
  | 'z' :: rest => some (0, rest)
  | _ =>
    if (cs.take 3).map Char.toUpper = ['U', 'T', 'C'] then some (0, cs.drop 3)
    else do
      let (sign, rest) ← readSign? cs
      let (hours, rest) ← readTwoDigits? rest
      let (minutes, rest) ← readTwoDigits? (rest.dropWhile fun c => c = ':' || isBlank c)
      if hours < 24 ∧ minutes < 60 then some (sign * (hours * 3600 + minutes * 60 : Nat), rest) else none

/-- A date, and the text after it. -/
def readDate? (cs : List Char) : Option (Date × List Char) := do
  let (year, rest) ← readYear? cs
  let (month, rest) ← readPart? 1 12 (← readMark? '-' rest)
  let (day, rest) ← readPart? 1 31 (← readMark? '-' rest)
  let date : Date := ⟨year, month, day⟩
  if date.isValid && -262143 ≤ year && year ≤ 262142 then some (date, rest) else none

/-- The text after what separates the date from the time. -/
def readSeparator? : List Char → Option (List Char)
  | c :: rest => if c = 'T' ∨ c = 't' ∨ c = ' ' then some rest else none
  | [] => none

/-- The seconds since midnight and the nanoseconds; second 60 is a leap second. -/
def readTime? (cs : List Char) : Option ((Nat × Nat) × List Char) := do
  let (hour, rest) ← readPart? 0 23 cs
  let (minute, rest) ← readPart? 0 59 (← readMark? ':' rest)
  let (second, rest) ← readPart? 0 60 (← readMark? ':' rest)
  let (nanos, rest) ← readNanos? rest
  let start := hour * 3600 + minute * 60
  return (if second = 60 then (start + 59, nanos + billion) else (start + second, nanos), rest)

/-- The moment that the whole text denotes. -/
def Timestamp.read? (cs : List Char) : Option Timestamp := do
  let (date, rest) ← readDate? cs
  let ((time, nanos), rest) ← readTime? (← readSeparator? rest)
  let (offset, rest) ← readOffset? (skipBlanks rest)
  if (skipBlanks rest).isEmpty then Timestamp.make? (86400 * dayNumber date + time - offset) nanos else none

end TunnelBroker.Time
