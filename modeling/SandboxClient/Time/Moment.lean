/-
  SandboxClient/Time/Moment.lean
  ==============================
  **Moments.** A moment is a day, a second of that day and a fraction, all at the
  meridian of Greenwich. Moments are written with the least of zero, three, six
  or nine places that shows the fraction. Reading is lenient about leading
  zeros, about blanks between the parts, and about how a time zone is spelled.
-/
import SandboxClient.Number.Fixed
import SandboxClient.Text.Blank

namespace SandboxClient.Time

/-! ### Days

The calendar that is in use today, carried on in both directions. -/

def isLeapYear (y : Int) : Bool := y % 4 == 0 && (y % 100 != 0 || y % 400 == 0)

def daysInMonth (y : Int) (m : Nat) : Nat :=
  if m == 2 then (if isLeapYear y then 29 else 28)
  else if [4, 6, 9, 11].contains m then 30 else 31

/-- The days from the first of January of the year 1970 to a date. The year is taken to begin
in March, so that the day that may be missing is its last. -/
def dayOfDate (year : Int) (month day : Nat) : Int :=
  let y := if month ≤ 2 then year - 1 else year
  let m := if month ≤ 2 then month + 9 else month - 3
  let era := y.fdiv 400
  let yearOfEra := y.fmod 400
  let dayOfYear : Int := (153 * m + 2) / 5 + day - 1
  era * 146097 + (yearOfEra * 365 + yearOfEra / 4 - yearOfEra / 100 + dayOfYear) - 719468

/-- The year, month and day of a count of days from the first of January 1970. -/
def dateOfDay (day : Int) : Int × Nat × Nat :=
  let z := day + 719468
  let era := z.fdiv 146097
  let d := z.fmod 146097
  let yearOfEra := (d - d / 1460 + d / 36524 - d / 146096) / 365
  let dayOfYear := d - (365 * yearOfEra + yearOfEra / 4 - yearOfEra / 100)
  let m := (5 * dayOfYear + 2) / 153
  let day := dayOfYear - (153 * m + 2) / 5 + 1
  let month := if m < 10 then m + 3 else m - 9
  (yearOfEra + era * 400 + (if month ≤ 2 then 1 else 0), month.toNat, day.toNat)

/-! ### Moments

A moment counts from the first of January 1970, in days, seconds of the day and billionths. -/

/-- A moment. In a leap second the fraction is a second or more. -/
structure Moment where
  /-- Days from the first of January 1970. -/
  day : Int
  /-- Seconds of the day. -/
  second : Nat
  /-- Billionths of a second. -/
  nano : Nat
  deriving DecidableEq, Repr

def secondsPerDay : Nat := 86400

def nanosPerSecond : Nat := 1000000000

/-- The billionths of a second from the first of January 1970. -/
def Moment.nanos (m : Moment) : Int :=
  (m.day * secondsPerDay + m.second) * nanosPerSecond + m.nano

/-- The moment so many seconds after the first of January 1970. -/
def Moment.ofSeconds (s : Int) : Moment :=
  ⟨s.fdiv secondsPerDay, (s.fmod secondsPerDay).toNat, 0⟩

/-- The whole seconds from one moment to another. -/
def Moment.secondsTo (a b : Moment) : Int := (b.nanos - a.nanos).tdiv nanosPerSecond

/-! ### Writing

Moments are written in the form of the internet, in universal time. -/

/-- A year of four digits, or with a sign when that is not enough. -/
def yearText (y : Int) : List Char :=
  if 0 ≤ y && y ≤ 9999 then Number.paddedDigits 4 y.toNat
  else (if y < 0 then '-' else '+') :: Number.paddedDigits 4 y.natAbs

/-- A fraction in the least of zero, three, six or nine places. -/
def fractionText (nano : Nat) : List Char :=
  if nano == 0 then []
  else if nano % 1000000 == 0 then '.' :: Number.paddedDigits 3 (nano / 1000000)
  else if nano % 1000 == 0 then '.' :: Number.paddedDigits 6 (nano / 1000)
  else '.' :: Number.paddedDigits 9 nano

def Moment.text (m : Moment) : String :=
  let (year, month, day) := dateOfDay m.day
  let two := Number.paddedDigits 2
  let leap := m.nano / nanosPerSecond
  String.ofList (yearText year ++ ['-'] ++ two month ++ ['-'] ++ two day ++ ['T'] ++
    two (m.second / 3600) ++ [':'] ++ two (m.second / 60 % 60) ++ [':'] ++
    two (m.second % 60 + leap) ++ fractionText (m.nano % nanosPerSecond) ++ "+00:00".toList)

/-! ### Reading

What is read is more than what is written: blanks, fields of one digit, years with a sign, and other
time zones. -/

def digitsValue (s : List Char) : Nat := s.foldl (fun n c => n * 10 + (c.toNat - 0x30)) 0

/-- A number of one to `most` digits behind blanks, and what follows it. -/
def takeNumber (most : Nat) (s : List Char) : Option (Nat × List Char) :=
  let s := Text.trimStart s
  let digits := (s.take most).takeWhile Char.isDigit
  if digits.isEmpty then none else some (digitsValue digits, s.drop digits.length)

/-- All the digits at the front, at least one. -/
def takeDigits (s : List Char) : Option (Nat × List Char) :=
  let digits := s.takeWhile Char.isDigit
  if digits.isEmpty then none else some (digitsValue digits, s.drop digits.length)

/-- A year: of up to four digits, or of any number of digits behind a sign. -/
def takeYear (s : List Char) : Option (Int × List Char) :=
  match Text.trimStart s with
  | '-' :: r => (takeDigits r).map (fun x => (-(x.1 : Int), x.2))
  | '+' :: r => (takeDigits r).map (fun x => ((x.1 : Int), x.2))
  | r => (takeNumber 4 r).map (fun x => ((x.1 : Int), x.2))

/-- Passes a mark between blanks. -/
def skip (mark : Char) (s : List Char) : Option (List Char) :=
  match Text.trimStart s with
  | c :: r => if c == mark then some (Text.trimStart r) else none
  | [] => none

/-- A number between bounds, and what follows it. -/
def takeBetween (low high : Nat) (s : List Char) : Option (Nat × List Char) := do
  let (n, r) ← takeNumber 2 s
  if low ≤ n && n ≤ high then return (n, r) else none

/-- The fraction of a second, of which nine places count, and what follows it. -/
def takeFraction : List Char → Option (Nat × List Char)
  | '.' :: r =>
    let digits := r.takeWhile Char.isDigit
    if digits.isEmpty then none
    else
      let counted := digits.take 9
      some (digitsValue counted * Nat.pow 10 (9 - counted.length), r.drop digits.length)
  | s => some (0, s)

def takeTwoDigits (most : Nat) : List Char → Option (Nat × List Char)
  | a :: b :: r =>
    if a.isDigit && b.isDigit && digitsValue [a, b] ≤ most then some (digitsValue [a, b], r)
    else none
  | _ => none

/-- The seconds of a time zone ahead of Greenwich, and what follows it. -/
def takeZone (s : List Char) : Option (Int × List Char) :=
  if (s.take 3).map Char.toUpper == ['U', 'T', 'C'] then some (0, s.drop 3)
  else match s with
    | 'Z' :: r | 'z' :: r => some (0, r)
    | c :: r => do
      let sign : Int ← if c == '+' then some 1 else if c == '-' || c == '−' then some (-1) else none
      let (hours, r) ← takeTwoDigits 99 r
      let (minutes, r) ← takeTwoDigits 59 (r.dropWhile (fun c => c == ':' || Text.isBlank c))
      return (sign * ((hours * 60 + minutes) * 60 : Nat), r)
    | [] => none

/-- The greatest distance of a year from the year zero, in both directions. -/
def yearReach : Int := 262142

/-- The moment with a date, a second of the day and a fraction, in a time zone. -/
def Moment.ofLocal (day second : Int) (nano : Nat) (zone : Int) : Moment :=
  let s := day * secondsPerDay + second - zone
  { Moment.ofSeconds s with nano := nano }

/-- The date at the front of a text, and what follows it. -/
def takeDate (s : List Char) : Option (Int × List Char) := do
  let (year, s) ← takeYear s
  let (month, s) ← takeBetween 1 12 (← skip '-' s)
  let (day, s) ← takeBetween 1 31 (← skip '-' s)
  if day > daysInMonth year month || year > yearReach || year < -yearReach then none
  else return (dayOfDate year month day, s)

/-- The second of the day and the fraction at the front of a text, and what follows them. -/
def takeTime (s : List Char) : Option (Nat × Nat × List Char) := do
  let (hour, s) ← takeBetween 0 23 s
  let (minute, s) ← takeBetween 0 59 (← skip ':' s)
  let (second, s) ← takeBetween 0 60 (← skip ':' s)
  let (nano, s) ← takeFraction s
  if second == 60 then return (hour * 3600 + minute * 60 + 59, nano + nanosPerSecond, s)
  else return (hour * 3600 + minute * 60 + second, nano, s)

def Moment.read (text : String) : Option Moment := do
  let (day, s) ← takeDate text.toList
  let s ← match s with
    | c :: r => if c == 'T' || c == 't' || c == ' ' then some r else none
    | [] => none
  let (second, nano, s) ← takeTime s
  let (zone, s) ← takeZone (Text.trimStart s)
  if zone.natAbs ≥ secondsPerDay || !(Text.trimStart s).isEmpty then none
  else
    let m := Moment.ofLocal day second nano zone
    if (dateOfDay m.day).1.natAbs > yearReach.natAbs then none else return m

end SandboxClient.Time
