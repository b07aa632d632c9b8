import SpanQuery.Calendar.Date
import SpanQuery.Decimal.Reader
import SpanQuery.Text.Blank

/-!
# Dates with a time of day

A stamp is what a calendar and a clock show. It is written as `yyyy-mm-dd HH:MM:SS`; what is read
may leave the seconds and leading zeros out and have blanks before every number.
-/

namespace SpanQuery.Calendar

structure Stamp where
  date : Date
  hour : Nat
  minute : Nat
  second : Nat
  deriving Repr, DecidableEq

namespace Stamp

def toSeconds (s : Stamp) : Int :=
  86400 * s.date.toDays + 3600 * s.hour + 60 * s.minute + s.second

def ofSeconds (n : Int) : Stamp :=
  let inDay := (n % 86400).toNat
  ⟨Date.ofDays (n / 86400), inDay / 3600, inDay / 60 % 60, inDay % 60⟩

theorem toSeconds_ofSeconds (n : Int) : (ofSeconds n).toSeconds = n := by
  simp only [toSeconds, ofSeconds, Date.toDays_ofDays]
  omega

/-! ## Writing -/

def padded (width n : Nat) : List Char :=
  let ds := Nat.toDigits 10 n
  List.replicate (width - ds.length) '0' ++ ds

def yearChars (year : Int) : List Char :=
  if year < 0 then '-' :: padded 4 year.natAbs else padded 4 year.natAbs

def chars (s : Stamp) : List Char :=
  yearChars s.date.year ++ '-' :: padded 2 s.date.month ++ '-' :: padded 2 s.date.day ++
    ' ' :: padded 2 s.hour ++ ':' :: padded 2 s.minute ++ ':' :: padded 2 s.second

/-! ## Reading -/

def number? (width : Nat) (s : List Char) : Option (Nat × List Char) :=
  let ds := (s.take width).takeWhile Char.isDigit
  if ds.isEmpty then none else some (Decimal.natural ds, s.drop ds.length)

def field? (width : Nat) (s : List Char) : Option (Nat × List Char) :=
  number? width (Text.trimStart s)

/-- A year has at most four digits, unless it is negative. -/
def year? (s : List Char) : Option (Int × List Char) :=
  match Text.trimStart s with
  | '-' :: s => (number? s.length s).map fun (n, rest) => (-n, rest)
  | s => (number? 4 s).map fun (n, rest) => (n, rest)

def expect? (c : Char) : List Char → Option (List Char)
  | d :: rest => if d = c then some rest else none
  | [] => none

def firstYear : Int := -262143

def lastYear : Int := 262142

/-- The seconds of a minute up to the end of a text, if they are there; a leap second counts as the
one before it. -/
def seconds? : List Char → Option Nat
  | [] => some 0
  | s => do
      let s ← expect? ':' s
      let (second, rest) ← field? 2 s
      if rest.isEmpty ∧ second ≤ 60 then some (min second 59) else none

def ofChars? (s : List Char) : Option Stamp := do
  let (year, s) ← year? s
  let s ← expect? '-' s
  let (month, s) ← field? 2 s
  let s ← expect? '-' s
  let (day, s) ← field? 2 s
  let (hour, s) ← field? 2 s
  let s ← expect? ':' s
  let (minute, s) ← field? 2 s
  let second ← seconds? s
  let date : Date := ⟨year, month, day⟩
  if date.IsValid ∧ firstYear ≤ year ∧ hour < 24 ∧ minute < 60 then
    some ⟨date, hour, minute, second⟩
  else none

end Stamp

end SpanQuery.Calendar
