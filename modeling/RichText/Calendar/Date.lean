namespace RichText.Calendar

def isLeap (year : Int) : Bool := year % 4 = 0 && (year % 100 ≠ 0 || year % 400 = 0)

/-- A day of the Gregorian calendar by its place in its year, counted from zero. -/
structure YearDay where
  year : Int
  index : Nat
  deriving DecidableEq

/-- Days from the first day of the year 1 to the first day of 1970. -/
def epochDay : Int := 719162

/-- The day that comes so many days after the first day of 1970. Years of four hundred, a hundred,
four and one are taken off in turn, the last of them being one day longer than the others. -/
def YearDay.ofEpochDays (days : Int) : YearDay :=
  let n := days + epochDay
  let inEra := (n % 146097).toNat
  let centuries := min (inEra / 36524) 3
  let inCentury := inEra - centuries * 36524
  let quads := inCentury / 1461
  let inQuad := inCentury % 1461
  let years := min (inQuad / 365) 3
  ⟨400 * (n / 146097) + 100 * centuries + 4 * quads + years + 1, inQuad - 365 * years⟩

def monthLengths (year : Int) : List Nat :=
  [31, if isLeap year then 29 else 28, 31, 30, 31, 30, 31, 31, 30, 31, 30, 31]

/-- The month and the day in it, both counted from zero. -/
def monthDay : List Nat → Nat → Nat × Nat
  | [], i => (0, i)
  | n :: ns, i =>
    if i < n then (0, i)
    else
      let (m, d) := monthDay ns (i - n)
      (m + 1, d)

structure Moment where
  epochMillis : Int
  deriving DecidableEq

namespace Moment

variable (m : Moment)

def epochSeconds : Int := m.epochMillis / 1000

def epochDays : Int := m.epochMillis / 86400000

def secondOfDay : Nat := (m.epochSeconds % 86400).toNat

def yearDay : YearDay := .ofEpochDays m.epochDays

def year : Int := m.yearDay.year

def ordinal : Nat := m.yearDay.index + 1

def month : Nat := (monthDay (monthLengths m.year) m.yearDay.index).1 + 1

def day : Nat := (monthDay (monthLengths m.year) m.yearDay.index).2 + 1

/-- Days since Monday. The first day of 1970 was a Thursday. -/
def weekday : Nat := ((m.epochDays + 3) % 7).toNat

def daysSinceSunday : Nat := (m.weekday + 1) % 7

/-- The Thursday of the same week. Weeks belong to the year of their Thursday. -/
def thursday : YearDay := .ofEpochDays (m.epochDays - m.weekday + 3)

def isoYear : Int := m.thursday.year

def isoWeek : Nat := m.thursday.index / 7 + 1

def weeksFrom (daysSince : Nat) : Nat := (m.ordinal + 6 - daysSince) / 7

def hour : Nat := m.secondOfDay / 3600

def hour12 : Nat := if m.hour % 12 = 0 then 12 else m.hour % 12

def minute : Nat := m.secondOfDay / 60 % 60

def second : Nat := m.secondOfDay % 60

def nanosecond : Nat := (m.epochMillis % 1000).toNat * 1000000

def minMillis : Int := -8334601228800000

def maxMillis : Int := 8210266876799999

def ofMillis? (millis : Int) : Option Moment :=
  if minMillis ≤ millis ∧ millis ≤ maxMillis then some ⟨millis⟩ else none

end Moment

end RichText.Calendar
