/-!
# The calendar

Instants are milliseconds since the beginning of 1970. The calendar is the Gregorian one,
also for the time before it was introduced, and all of its days have the same length.
-/

namespace PageWatch.Calendar

/-- The milliseconds of a day. -/
def dayLength : Int := 86400000

/-- A day of the calendar. Months and days count from one. -/
structure Day where
  year : Int
  month : Nat
  day : Nat
  deriving DecidableEq, Repr, Inhabited

/-- The number of the first day of a month, where 0 is the first day of 1970. Years are
taken to begin in March, so that the day that is sometimes added is their last. -/
def firstOfMonth (year : Int) (month : Nat) : Int :=
  let shifted := if month ≤ 2 then year - 1 else year
  let monthIndex : Int := if month ≤ 2 then month + 9 else (month : Int) - 3
  let era := shifted.fdiv 400
  let yearOfEra := shifted - era * 400
  let dayOfYear := (153 * monthIndex + 2).fdiv 5
  era * 146097 + yearOfEra * 365 + yearOfEra.fdiv 4 - yearOfEra.fdiv 100 + dayOfYear - 719468

/-- The day of a number, where 0 is the first day of 1970. -/
def dayOf (number : Int) : Day :=
  let shifted := number + 719468
  let era := shifted.fdiv 146097
  let dayOfEra := shifted - era * 146097
  let yearOfEra := (dayOfEra - dayOfEra.fdiv 1460 + dayOfEra.fdiv 36524 -
    dayOfEra.fdiv 146096).fdiv 365
  let dayOfYear := dayOfEra - (365 * yearOfEra + yearOfEra.fdiv 4 - yearOfEra.fdiv 100)
  let monthIndex := (5 * dayOfYear + 2).fdiv 153
  let day := dayOfYear - (153 * monthIndex + 2).fdiv 5 + 1
  let month := if monthIndex < 10 then monthIndex + 3 else monthIndex - 9
  let year := yearOfEra + era * 400 + (if month ≤ 2 then 1 else 0)
  ⟨year, month.toNat, day.toNat⟩

/-- The number of a day whose month, counted from zero, and whose day may lie outside of
the year and of the month. -/
def dayNumber (year month day : Int) : Int :=
  firstOfMonth (year + month.fdiv 12) ((month.fmod 12).toNat + 1) + (day - 1)

/-- An instant taken apart. -/
structure Moment where
  date : Day
  /-- The day of the week, Sundays being 0. -/
  weekday : Nat
  hour : Nat
  minute : Nat
  second : Nat
  millisecond : Nat
  deriving DecidableEq, Repr, Inhabited

def momentOf (instant : Int) : Moment :=
  let number := instant.fdiv dayLength
  let rest := (instant.fmod dayLength).toNat
  { date := dayOf number
    weekday := ((number + 4).fmod 7).toNat
    hour := rest / 3600000
    minute := rest / 60000 % 60
    second := rest / 1000 % 60
    millisecond := rest % 1000 }

/-- The instant of a time of a day. The parts may be out of their bounds. -/
def instantOf (dayNumber hour minute second millisecond : Int) : Int :=
  dayNumber * dayLength + hour * 3600000 + minute * 60000 + second * 1000 + millisecond

/-- The greatest distance of an instant from the beginning of 1970. -/
def farthest : Int := 8640000000000000

/-- An instant, unless it lies too far away. -/
def within? (instant : Int) : Option Int :=
  if instant.natAbs ≤ farthest.toNat then some instant else none

/-! ## Texts -/

/-- A number with zeros in front, up to some width. -/
def padded (width number : Nat) : String :=
  let digits := Nat.toDigits 10 number
  String.ofList (List.replicate (width - digits.length) '0' ++ digits)

def weekdayNames : List String := ["Sun", "Mon", "Tue", "Wed", "Thu", "Fri", "Sat"]

def monthNames : List String :=
  ["Jan", "Feb", "Mar", "Apr", "May", "Jun", "Jul", "Aug", "Sep", "Oct", "Nov", "Dec"]

namespace Moment

def weekdayName (moment : Moment) : String := (weekdayNames[moment.weekday]?).getD ""

def monthName (moment : Moment) : String := (monthNames[moment.date.month - 1]?).getD ""

/-- The year with at least four digits. -/
def yearText (moment : Moment) : String :=
  let year := moment.date.year
  if 0 ≤ year then padded 4 year.toNat else "-" ++ padded 6 (-year).toNat

/-- The time of the day. -/
def clockText (moment : Moment) : String :=
  padded 2 moment.hour ++ ":" ++ padded 2 moment.minute ++ ":" ++ padded 2 moment.second

/-- The date, with the name of the day of the week. -/
def dateText (moment : Moment) : String :=
  " ".intercalate
    [moment.weekdayName, moment.monthName, padded 2 moment.date.day, moment.yearText]

/-- The time of the day with its distance from Greenwich. -/
def timeText (moment : Moment) : String := moment.clockText ++ " GMT+0000"

/-- The date in the order of mail headers. -/
def mailText (moment : Moment) : String :=
  moment.weekdayName ++ ", " ++ padded 2 moment.date.day ++ " " ++ moment.monthName ++ " " ++
    moment.yearText ++ " " ++ moment.clockText ++ " GMT"

/-- The date in the form that sorts as text. Years beyond four digits have a sign. -/
def sortableText (moment : Moment) : String :=
  let year := moment.date.year
  let yearText :=
    if 0 ≤ year && year ≤ 9999 then padded 4 year.toNat
    else (if year < 0 then "-" else "+") ++ padded 6 year.natAbs
  yearText ++ "-" ++ padded 2 moment.date.month ++ "-" ++ padded 2 moment.date.day ++ "T" ++
    moment.clockText ++ "." ++ padded 3 moment.millisecond ++ "Z"

end Moment

/-! ## Reading -/

/-- Reads a number of exactly so many digits. -/
def digits? (count : Nat) (text : List Char) : Option (Int × List Char) :=
  let digits := text.take count
  if digits.length = count && digits.all Char.isDigit then
    some (Nat.ofDigitChars 10 digits 0, text.drop count)
  else none

def year? : List Char → Option (Int × List Char)
  | '+' :: rest => digits? 6 rest
  | '-' :: rest => do
    let (year, rest) ← digits? 6 rest
    if year = 0 then none else some (-year, rest)
  | text => digits? 4 text

/-- Reads a part of a date after a sign, if that sign is next, and otherwise takes another
value. -/
def partAfter? (sign : Char) (missing : Int) : List Char → Option (Int × List Char)
  | [] => some (missing, [])
  | c :: rest => if c = sign then digits? 2 rest else some (missing, c :: rest)

/-- The milliseconds that the digits after a point stand for. -/
def milliseconds (digits : List Char) : Int :=
  Nat.ofDigitChars 10 ((digits ++ ['0', '0', '0']).take 3) 0

/-- Reads the distance from Greenwich, in minutes. -/
def offset? : List Char → Option Int
  | [] => some 0
  | ['Z'] => some 0
  | sign :: rest => do
    let (hours, rest) ← digits? 2 rest
    let (minutes, rest) ← digits? 2 (if rest.head? = some ':' then rest.drop 1 else rest)
    if !rest.isEmpty then none
    else if sign = '+' then some (hours * 60 + minutes)
    else if sign = '-' then some (-(hours * 60 + minutes))
    else none

/-- Reads the time of a day, up to the distance from Greenwich: the milliseconds since the
day began there. -/
def clock? (text : List Char) : Option Int := do
  let (hour, rest) ← digits? 2 text
  let (minute, rest) ← match rest with
    | ':' :: rest => digits? 2 rest
    | _ => none
  let (second, rest) ← partAfter? ':' 0 rest
  let (thousandths, rest) ← match rest with
    | '.' :: rest =>
      let digits := rest.takeWhile Char.isDigit
      if digits.isEmpty then none else some (milliseconds digits, rest.drop digits.length)
    | _ => some (0, rest)
  let offset ← offset? rest
  let wholeDay := hour = 24 && minute = 0 && second = 0 && thousandths = 0
  if (23 < hour && !wholeDay) || 59 < minute || 59 < second then none
  else some (instantOf 0 hour (minute - offset) second thousandths)

/-- Reads a date in the form that sorts as text. -/
def sortable? (text : List Char) : Option Int := do
  let (year, rest) ← year? text
  let (month, rest) ← partAfter? '-' 1 rest
  let (day, rest) ← partAfter? '-' 1 rest
  let number := dayNumber year (month - 1) day
  if month < 1 || 12 < month || day < 1 || (dayOf number).month ≠ month.toNat then none
  match rest with
  | [] => some (number * dayLength)
  | 'T' :: rest => do
    let time ← clock? rest
    some (number * dayLength + time)
  | _ => none

def monthOf? (name : String) : Option Nat := monthNames.idxOf? name

/-- The time that words tell after a date. -/
def wordsClock? : List String → Option Int
  | [] => some 0
  | [clock] | [clock, "GMT"] => clock? clock.toList
  | [clock, zone] =>
    if zone.startsWith "GMT" then clock? (clock ++ (zone.drop 3).toString).toList else none
  | _ => none

/-- Reads a date that is written in words. -/
def words? (text : String) : Option Int := do
  let words := (text.splitOn " ").filter (· ≠ "")
  let words := match words with
    | first :: rest =>
      if weekdayNames.contains (String.ofList (first.toList.filter (· ≠ ','))) then rest
      else words
    | [] => []
  match words with
  | first :: second :: year :: rest =>
    let (month, day) ← match monthOf? first, monthOf? second with
      | some month, _ => some (month, (String.ofList (second.toList.filter (· ≠ ','))))
      | none, some month => some (month, first)
      | none, none => none
    let day ← day.toNat?
    let year ← year.toNat?
    let time ← wordsClock? rest
    some (dayNumber year month day * dayLength + time)
  | _ => none

def read? (text : String) : Option Int :=
  ((sortable? text.toList).orElse fun _ => words? text).bind within?

end PageWatch.Calendar
