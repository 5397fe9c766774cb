import RichText.Calendar.Date
import RichText.Decimal.Shortest

namespace RichText.Calendar

open Decimal (digitChars padLeft)

inductive Pad where
  | none | zero | space
  deriving DecidableEq

inductive Field where
  | year | century | yearOfCentury | isoYear | isoYearOfCentury
  | quarter | month | day | ordinal
  | weekFromSunday | weekFromMonday | isoWeek | daysSinceSunday | dayFromMonday
  | hour | hour12 | minute | second | nanosecond | timestamp
  deriving DecidableEq

/-- The parts of a date that are no plain numbers. -/
inductive Phrase where
  | monthShort | monthLong | weekdayShort | weekdayLong
  | halfDayLower | halfDayUpper
  /-- A fraction of a second as short as it can be, with its point. -/
  | fraction
  /-- So many digits of the fraction, with or without a point. -/
  | fractionDigits (digits : Nat) (point : Bool)
  | zoneName
  | zoneOffset | zoneOffsetColon | zoneOffsetSeconds | zoneOffsetHours
  | timestamp

inductive Item where
  | char (c : Char)
  | field (f : Field) (pad : Pad)
  | phrase (p : Phrase)

namespace Item

def zero (f : Field) : Item := field f .zero

def time : List Item := [zero .hour, char ':', zero .minute, char ':', zero .second]

def slashDate : List Item := [zero .month, char '/', zero .day, char '/', zero .yearOfCentury]

def isoDate : List Item := [zero .year, char '-', zero .month, char '-', zero .day]

def ofLetter : Char → Option (List Item)
  | 'A' => some [phrase .weekdayLong]
  | 'B' => some [phrase .monthLong]
  | 'C' => some [zero .century]
  | 'D' | 'x' => some slashDate
  | 'F' => some isoDate
  | 'G' => some [zero .isoYear]
  | 'H' => some [zero .hour]
  | 'I' => some [zero .hour12]
  | 'M' => some [zero .minute]
  | 'P' => some [phrase .halfDayLower]
  | 'R' => some [zero .hour, char ':', zero .minute]
  | 'S' => some [zero .second]
  | 'T' | 'X' => some time
  | 'U' => some [zero .weekFromSunday]
  | 'V' => some [zero .isoWeek]
  | 'W' => some [zero .weekFromMonday]
  | 'Y' => some [zero .year]
  | 'Z' => some [phrase .zoneName]
  | 'a' => some [phrase .weekdayShort]
  | 'b' | 'h' => some [phrase .monthShort]
  | 'c' => some ([phrase .weekdayShort, char ' ', phrase .monthShort, char ' ', field .day .space,
      char ' '] ++ time ++ [char ' ', zero .year])
  | 'd' => some [zero .day]
  | 'e' => some [field .day .space]
  | 'f' => some [zero .nanosecond]
  | 'g' => some [zero .isoYearOfCentury]
  | 'j' => some [zero .ordinal]
  | 'k' => some [field .hour .space]
  | 'l' => some [field .hour12 .space]
  | 'm' => some [zero .month]
  | 'n' => some [char '\n']
  | 'p' => some [phrase .halfDayUpper]
  | 'q' => some [field .quarter .none]
  | 'r' => some [zero .hour12, char ':', zero .minute, char ':', zero .second, char ' ',
      phrase .halfDayUpper]
  | 's' => some [field .timestamp .none]
  | 't' => some [char '\t']
  | 'u' => some [field .dayFromMonday .none]
  | 'v' => some [field .day .space, char '-', phrase .monthShort, char '-', zero .year]
  | 'w' => some [field .daysSinceSunday .none]
  | 'y' => some [zero .yearOfCentury]
  | 'z' => some [phrase .zoneOffset]
  | '+' => some [phrase .timestamp]
  | '%' => some [char '%']
  | _ => none

def repad (pad : Pad) : List Item → Option (List Item)
  | [field f _] => some [field f pad]
  | _ => none

def padOf : Char → Option Pad
  | '-' => some .none
  | '0' => some .zero
  | '_' => some .space
  | _ => none

/-- Reads a pattern. Every percent sign has to begin a specification. -/
def parse : List Char → Option (List Item)
  | [] => some []
  | '%' :: ':' :: ':' :: ':' :: 'z' :: cs => (phrase .zoneOffsetHours :: ·) <$> parse cs
  | '%' :: ':' :: ':' :: 'z' :: cs => (phrase .zoneOffsetSeconds :: ·) <$> parse cs
  | '%' :: ':' :: 'z' :: cs => (phrase .zoneOffsetColon :: ·) <$> parse cs
  | '%' :: '.' :: 'f' :: cs => (phrase .fraction :: ·) <$> parse cs
  | '%' :: '.' :: d :: 'f' :: cs => (· :: ·) <$> digits true d <*> parse cs
  | '%' :: d :: 'f' :: cs =>
    match padOf d, digits false d with
    | some pad, _ => (field .nanosecond pad :: ·) <$> parse cs
    | _, some item => (item :: ·) <$> parse cs
    | _, none =>
      match ofLetter d with
      | some items => (items ++ char 'f' :: ·) <$> parse cs
      | none => none
  | '%' :: c :: d :: cs =>
    match padOf c with
    | some pad => (· ++ ·) <$> ((ofLetter d).bind (repad pad)) <*> parse cs
    | none => (· ++ ·) <$> ofLetter c <*> parse (d :: cs)
  | ['%', c] => ofLetter c
  | ['%'] => none
  | c :: cs => (char c :: ·) <$> parse cs
where
  digits (point : Bool) : Char → Option Item
    | '3' => some (phrase (.fractionDigits 3 point))
    | '6' => some (phrase (.fractionDigits 6 point))
    | '9' => some (phrase (.fractionDigits 9 point))
    | _ => none

end Item

def padNumber (pad : Pad) (width : Nat) (sign : List Char) (n : Nat) : List Char :=
  match pad with
  | .none => sign ++ digitChars n
  | .zero => sign ++ padLeft (width - sign.length) '0' (digitChars n)
  | .space => padLeft width ' ' (sign ++ digitChars n)

def signOf (n : Int) (always : Bool) : List Char :=
  if n < 0 then ['-'] else if always then ['+'] else []

/-- A year of four digits. Outside of 0 to 9999 it has a sign besides. -/
def yearText (pad : Pad) (year : Int) : List Char :=
  if 0 ≤ year ∧ year < 10000 then padNumber pad 4 [] year.toNat
  else padNumber pad 5 (signOf year true) year.natAbs

def monthNames : List String :=
  ["January", "February", "March", "April", "May", "June", "July", "August", "September",
   "October", "November", "December"]

def weekdayNames : List String :=
  ["Monday", "Tuesday", "Wednesday", "Thursday", "Friday", "Saturday", "Sunday"]

def abbreviate (cs : List Char) : List Char := cs.take 3

namespace Moment

def fieldText (m : Moment) (pad : Pad) : Field → List Char
  | .year => yearText pad m.year
  | .century => padNumber pad 2 [] (m.year / 100).toNat
  | .yearOfCentury => padNumber pad 2 [] (m.year % 100).toNat
  | .isoYear => yearText pad m.isoYear
  | .isoYearOfCentury => padNumber pad 2 [] (m.isoYear % 100).toNat
  | .quarter => digitChars ((m.month - 1) / 3 + 1)
  | .month => padNumber pad 2 [] m.month
  | .day => padNumber pad 2 [] m.day
  | .ordinal => padNumber pad 3 [] m.ordinal
  | .weekFromSunday => padNumber pad 2 [] (m.weeksFrom m.daysSinceSunday)
  | .weekFromMonday => padNumber pad 2 [] (m.weeksFrom m.weekday)
  | .isoWeek => padNumber pad 2 [] m.isoWeek
  | .daysSinceSunday => digitChars m.daysSinceSunday
  | .dayFromMonday => digitChars (m.weekday + 1)
  | .hour => padNumber pad 2 [] m.hour
  | .hour12 => padNumber pad 2 [] m.hour12
  | .minute => padNumber pad 2 [] m.minute
  | .second => padNumber pad 2 [] m.second
  | .nanosecond => padNumber pad 9 [] m.nanosecond
  | .timestamp => padNumber pad 9 (signOf m.epochSeconds false) m.epochSeconds.natAbs

def fractionText (m : Moment) (digits : Nat) : List Char :=
  padLeft digits '0' (digitChars (m.nanosecond / Nat.pow 10 (9 - digits)))

/-- None, three, six or nine digits, whatever the fraction needs. -/
def shortFraction (m : Moment) : List Char :=
  let n := m.nanosecond
  if n = 0 then []
  else '.' :: m.fractionText (if n % 1000000 = 0 then 3 else if n % 1000 = 0 then 6 else 9)

def monthName (m : Moment) : List Char := (monthNames.getD (m.month - 1) "").toList

def weekdayName (m : Moment) : List Char := (weekdayNames.getD m.weekday "").toList

def halfDay (m : Moment) (am pm : String) : List Char := (if m.hour < 12 then am else pm).toList

def timestamp (m : Moment) : List Char :=
  let two (n : Nat) : List Char := padNumber .zero 2 [] n
  yearText .zero m.year ++ '-' :: two m.month ++ '-' :: two m.day ++ 'T' :: two m.hour ++
    ':' :: two m.minute ++ ':' :: two m.second ++ m.shortFraction ++ "+00:00".toList

def phraseText (m : Moment) : Phrase → List Char
  | .monthShort => abbreviate m.monthName
  | .monthLong => m.monthName
  | .weekdayShort => abbreviate m.weekdayName
  | .weekdayLong => m.weekdayName
  | .halfDayLower => m.halfDay "am" "pm"
  | .halfDayUpper => m.halfDay "AM" "PM"
  | .fraction => m.shortFraction
  | .fractionDigits digits point => (if point then ['.'] else []) ++ m.fractionText digits
  | .zoneName => "UTC".toList
  | .zoneOffset => "+0000".toList
  | .zoneOffsetColon => "+00:00".toList
  | .zoneOffsetSeconds => "+00:00:00".toList
  | .zoneOffsetHours => "+00".toList
  | .timestamp => m.timestamp

def itemText (m : Moment) : Item → List Char
  | .char c => [c]
  | .field f pad => m.fieldText pad f
  | .phrase p => m.phraseText p

def format (m : Moment) (items : List Item) : String := String.ofList (items.flatMap m.itemText)

end Moment

end RichText.Calendar
