/-!
# Dates

The Gregorian calendar, carried on before its introduction and with a year zero. Days are counted
from 1 January 1970. Inside, a year begins with March, so that a leap day is its last.
-/

namespace SpanQuery.Calendar

structure Date where
  year : Int
  month : Nat
  day : Nat
  deriving Repr, DecidableEq

/-- The days from 1 March of year zero to 1 March of a year. -/
def daysBeforeYear (year : Int) : Int :=
  365 * year + year / 4 - year / 100 + year / 400

/-- The days from 1 March to the first of a month; months are counted from March. -/
def daysBeforeMonth (month : Nat) : Nat :=
  (153 * month + 2) / 5

/-- The number of 1 January 1970, counted from 1 March of year zero. -/
def epochDay : Int := 719468

def isLeapYear (year : Int) : Bool :=
  year % 4 = 0 ∧ (year % 100 ≠ 0 ∨ year % 400 = 0)

def monthLength (year : Int) (month : Nat) : Nat :=
  if month = 2 then if isLeapYear year then 29 else 28
  else if month = 4 ∨ month = 6 ∨ month = 9 ∨ month = 11 then 30 else 31

namespace Date

def IsValid (d : Date) : Prop :=
  1 ≤ d.month ∧ d.month ≤ 12 ∧ 1 ≤ d.day ∧ d.day ≤ monthLength d.year d.month

instance (d : Date) : Decidable d.IsValid := by
  unfold IsValid
  infer_instance

def marchYear (d : Date) : Int :=
  if d.month ≤ 2 then d.year - 1 else d.year

def marchMonth (d : Date) : Nat :=
  if d.month ≤ 2 then d.month + 9 else d.month - 3

def toDays (d : Date) : Int :=
  daysBeforeYear d.marchYear + daysBeforeMonth d.marchMonth + d.day - 1 - epochDay

def ofMarchDay (year : Int) (n : Nat) : Date :=
  let month := (5 * n + 2) / 153
  let day := n - daysBeforeMonth month + 1
  if month < 10 then ⟨year, month + 3, day⟩ else ⟨year + 1, month - 9, day⟩

/-- The day that comes that many days after 1 January 1970. Of four centuries the last is a day
longer, and so is the last of four years; what remains of the cycle goes to the one before. -/
def ofDays (n : Int) : Date :=
  let n := n + epochDay
  let inCycle := (n % 146097).toNat
  let century := min 3 (inCycle / 36524)
  let inCentury := inCycle - 36524 * century
  let inFour := inCentury % 1461
  let year := min 3 (inFour / 365)
  ofMarchDay (400 * (n / 146097) + ↑(100 * century + 4 * (inCentury / 1461) + year))
    (inFour - 365 * year)

def weekday (d : Date) : Nat :=
  ((d.toDays + 4) % 7).toNat

theorem toDays_ofMarchDay (year : Int) (n : Nat) (h : n ≤ 365) :
    (ofMarchDay year n).toDays = daysBeforeYear year + n - epochDay := by
  simp only [ofMarchDay, toDays, marchYear, marchMonth, daysBeforeMonth]
  split <;> simp only <;> split <;> simp only [daysBeforeYear] <;> omega

theorem daysBeforeYear_split (cycle : Int) (century four year : Nat) (hc : century ≤ 3)
    (hf : four ≤ 24) (hy : year ≤ 3) :
    daysBeforeYear (400 * cycle + ↑(100 * century + 4 * four + year)) =
      146097 * cycle + ↑(36524 * century + 1461 * four + 365 * year) := by
  have h4 : (400 * cycle + ↑(100 * century + 4 * four + year)) / 4 =
      100 * cycle + ↑(25 * century + four) := by omega
  have h100 : (400 * cycle + ↑(100 * century + 4 * four + year)) / 100 =
      4 * cycle + ↑century := by omega
  have h400 : (400 * cycle + ↑(100 * century + 4 * four + year)) / 400 = cycle := by omega
  rw [daysBeforeYear, h4, h100, h400]
  omega

theorem toDays_ofDays (n : Int) : (ofDays n).toDays = n := by
  rw [ofDays, toDays_ofMarchDay _ _ (by omega),
    daysBeforeYear_split _ _ _ _ (by omega) (by omega) (by omega)]
  simp only [epochDay]
  omega

end Date

end SpanQuery.Calendar
