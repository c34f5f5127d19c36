import NorFlash.Text.Numeral

/-!
# Dates and times

A `Timestamp` is a day, or a moment of a day with an optional offset from universal time.
`Timestamp.Parts` are the digits that it is written with; `Timestamp.ofParts` refuses those that no
calendar or clock has.
-/

namespace NorFlash.Yaml

namespace Timestamp

/-! ## Written form -/

/-- The digits of a moment of a day. -/
structure ClockParts where
  /-- The hour. -/
  hour : List Char
  /-- The minute. -/
  minute : List Char
  /-- The second. -/
  second : List Char
  /-- The digits after the point. -/
  fraction : List Char
  /-- Whether an offset is given. -/
  hasZone : Bool
  /-- The sign, the hours and the minutes of the offset; universal time has none. -/
  zone : Option (Char × List Char × List Char)

/-- The digits of a date or a time. -/
structure Parts where
  /-- The year. -/
  year : List Char
  /-- The month. -/
  month : List Char
  /-- The day. -/
  day : List Char
  /-- The moment of the day. -/
  clock : Option ClockParts

/-- Read digits, `low` of them at least and `high` at most. -/
def digits? (low high : Nat) (cs : List Char) : Option (List Char × List Char) :=
  let digits := (cs.take high).takeWhile Char.isDigit
  if low ≤ digits.length then some (digits, cs.drop digits.length) else none

/-- Read one character. -/
def expect? (c : Char) : List Char → Option (List Char)
  | d :: cs => if d = c then some cs else none
  | [] => none

/-- Whether a character is a space or a tab. -/
def isSpace (c : Char) : Bool :=
  c == ' ' || c == '\t'

/-- Read the mark or the blanks between a date and a time. -/
def separator? : List Char → Option (List Char)
  | c :: cs =>
    if c = 'T' ∨ c = 't' then some cs
    else if isSpace c then some (cs.dropWhile isSpace)
    else none
  | [] => none

/-- Read the offset at the end: `Z`, or a sign with hours and maybe minutes. -/
def zone? (cs : List Char) : Option (Bool × Option (Char × List Char × List Char)) := do
  match cs, cs.dropWhile isSpace with
  | [], _ => return (false, none)
  | _, ['Z'] => return (true, none)
  | _, sign :: rest =>
    if sign ≠ '+' ∧ sign ≠ '-' then none
    let (hours, rest) ← digits? 1 2 rest
    match rest with
    | [] => return (true, some (sign, hours, ['0']))
    | ':' :: rest =>
      let (minutes, rest) ← digits? 2 2 rest
      if rest = [] then return (true, some (sign, hours, minutes)) else none
    | _ => none
  | _, [] => none

/-- Read a moment of a day. -/
def clock? (cs : List Char) : Option ClockParts := do
  let (hour, cs) ← digits? 1 2 cs
  let (minute, cs) ← digits? 2 2 (← expect? ':' cs)
  let (second, cs) ← digits? 2 2 (← expect? ':' cs)
  let (fraction, cs) :=
    match cs with
    | '.' :: rest => (rest.takeWhile Char.isDigit, rest.dropWhile Char.isDigit)
    | _ => ([], cs)
  let (hasZone, zone) ← zone? cs
  return ⟨hour, minute, second, fraction, hasZone, zone⟩

/-- The characters without a line feed at their end. -/
def withoutLineFeed (cs : List Char) : List Char :=
  if cs.getLast? = some '\n' then cs.dropLast else cs

/-- Read a date or a time, which a line feed may follow. -/
def parts? (cs : List Char) : Option Parts := do
  let (year, cs) ← digits? 4 4 (withoutLineFeed cs)
  let (month, cs) ← digits? 1 2 (← expect? '-' cs)
  let (day, cs) ← digits? 1 2 (← expect? '-' cs)
  if cs = [] then return ⟨year, month, day, none⟩
  else return ⟨year, month, day, some (← clock? (← separator? cs))⟩

/-- Whether a text is a date or a time. A day without a time has two digits for the month and for
the day. -/
def isWritten (cs : List Char) : Bool :=
  match parts? cs with
  | some p => p.clock.isSome || (p.month.length == 2 && p.day.length == 2)
  | none => false

end Timestamp

/-! ## Days and moments -/

/-- A day. -/
structure Day where
  /-- The year, from 1 on. -/
  year : Nat
  /-- The month, from 1 on. -/
  month : Nat
  /-- The day of the month, from 1 on. -/
  day : Nat
  deriving DecidableEq, Repr

/-- A moment of a day. -/
structure Clock where
  /-- The hour. -/
  hour : Nat
  /-- The minute. -/
  minute : Nat
  /-- The second. -/
  second : Nat
  /-- The millionths of a second. -/
  micro : Nat
  /-- The minutes that the clock is ahead of universal time, if that is known. -/
  offset : Option Int
  deriving DecidableEq, Repr

/-- A day, or a moment of it. -/
structure Timestamp where
  /-- The day. -/
  day : Day
  /-- The moment. -/
  clock : Option Clock
  deriving DecidableEq, Repr

/-- Why digits are no date or time. -/
inductive TimestampFault where
  /-- There is no such year. -/
  | year (value : Nat)
  /-- There is no such month. -/
  | month
  /-- The month has no such day. -/
  | day
  /-- There is no such hour. -/
  | hour
  /-- There is no such minute. -/
  | minute
  /-- There is no such second. -/
  | second
  /-- The offset is a day or more; it is given in minutes. -/
  | offset (minutes : Int)
  deriving DecidableEq, Repr

namespace Timestamp

/-! ## Spans -/

/-- A span of minutes as messages show it: whole days, which may be negative, and seconds. -/
def spanText (minutes : Int) : String :=
  let days := minutes / 1440
  let seconds := minutes % 1440 * 60
  let parts := (if days = 0 then [] else ["days=" ++ Numeral.decimal days])
    ++ (if seconds = 0 then [] else ["seconds=" ++ Numeral.decimal seconds])
  "datetime.timedelta(" ++ (if parts = [] then "0" else ", ".intercalate parts) ++ ")"

end Timestamp

namespace TimestampFault

/-- The fault in words. -/
def message : TimestampFault → String
  | year value => "year " ++ Numeral.decimal value ++ " is out of range"
  | month => "month must be in 1..12"
  | day => "day is out of range for month"
  | hour => "hour must be in 0..23"
  | minute => "minute must be in 0..59"
  | second => "second must be in 0..59"
  | offset minutes =>
    "offset must be a timedelta strictly between -timedelta(hours=24) and timedelta(hours=24), not "
      ++ Timestamp.spanText minutes ++ "."

end TimestampFault

namespace Timestamp

/-! ## Calendar -/

/-- Whether a year has a leap day. -/
def isLeap (year : Nat) : Bool :=
  year % 4 == 0 && (year % 100 != 0 || year % 400 == 0)

/-- The days of a month. -/
def daysIn (year month : Nat) : Nat :=
  if month = 2 then (if isLeap year then 29 else 28)
  else if month = 4 ∨ month = 6 ∨ month = 9 ∨ month = 11 then 30
  else 31

/-- The number that digits stand for. -/
def number (digits : List Char) : Nat :=
  digits.foldl (fun n c => n * 10 + (c.toNat - '0'.toNat)) 0

/-- The millionths that the digits after a point stand for. -/
def micros (digits : List Char) : Nat :=
  number (digits.take 6 ++ List.replicate (6 - digits.length) '0')

/-- The day that digits stand for. -/
def dayOf (p : Parts) : Except TimestampFault Day :=
  let year := number p.year
  let month := number p.month
  let day := number p.day
  if year = 0 then .error (.year year)
  else if month = 0 ∨ 12 < month then .error .month
  else if day = 0 ∨ daysIn year month < day then .error .day
  else .ok ⟨year, month, day⟩

/-- The offset that digits stand for, in minutes. -/
def offsetOf (p : ClockParts) : Except TimestampFault (Option Int) :=
  match p.zone with
  | none => .ok (if p.hasZone then some 0 else none)
  | some (sign, hours, minutes) =>
    let size : Int := number hours * 60 + number minutes
    let offset := if sign = '-' then -size else size
    if 1440 ≤ size then .error (.offset offset) else .ok (some offset)

/-- The moment that digits stand for. -/
def clockOf (p : ClockParts) (offset : Option Int) : Except TimestampFault Clock :=
  let hour := number p.hour
  let minute := number p.minute
  let second := number p.second
  if 23 < hour then .error .hour
  else if 59 < minute then .error .minute
  else if 59 < second then .error .second
  else .ok ⟨hour, minute, second, micros p.fraction, offset⟩

/-- The date or time that digits stand for. -/
def ofParts (p : Parts) : Except TimestampFault Timestamp := do
  match p.clock with
  | none => return ⟨← dayOf p, none⟩
  | some c =>
    let offset ← offsetOf c
    let day ← dayOf p
    return ⟨day, some (← clockOf c offset)⟩

/-! ## Text -/

/-- A number with zeros in front, up to `width` digits. -/
def padded (width n : Nat) : String :=
  String.ofList (Numeral.zeroFill width (Nat.toDigits 10 n))

/-- An offset in hours and minutes. -/
def offsetText (minutes : Int) : String :=
  (if minutes < 0 then "-" else "+") ++ padded 2 (minutes.natAbs / 60) ++ ":"
    ++ padded 2 (minutes.natAbs % 60)

/-- A day as text. -/
def dayText (d : Day) : String :=
  padded 4 d.year ++ "-" ++ padded 2 d.month ++ "-" ++ padded 2 d.day

/-- A moment as text. -/
def clockText (c : Clock) : String :=
  padded 2 c.hour ++ ":" ++ padded 2 c.minute ++ ":" ++ padded 2 c.second
    ++ (if c.micro = 0 then "" else "." ++ padded 6 c.micro)
    ++ (match c.offset with | none => "" | some minutes => offsetText minutes)

/-- A date or time as text. -/
def render (t : Timestamp) : String :=
  match t.clock with
  | none => dayText t.day
  | some c => dayText t.day ++ " " ++ clockText c

/-- The numbers that a list shows for a moment; seconds and millionths are left out where they and
all that follows them are zero. -/
def clockNumbers (c : Clock) : List Nat :=
  [c.hour, c.minute] ++
    (if c.micro ≠ 0 then [c.second, c.micro] else if c.second ≠ 0 then [c.second] else [])

/-- A date or time as it is shown in a list. -/
def renderItem (t : Timestamp) : String :=
  let day := [t.day.year, t.day.month, t.day.day]
  let text (ns : List Nat) : List String := ns.map fun (n : Nat) => Numeral.decimal n
  match t.clock with
  | none => "datetime.date(" ++ ", ".intercalate (text day) ++ ")"
  | some c =>
    let zone := match c.offset with
      | none => []
      | some 0 => ["tzinfo=datetime.timezone.utc"]
      | some minutes => ["tzinfo=datetime.timezone(" ++ spanText minutes ++ ")"]
    "datetime.datetime(" ++ ", ".intercalate (text (day ++ clockNumbers c) ++ zone) ++ ")"

/-! ## Order of moments -/

/-- Days from a fixed day to the start of a year. -/
def daysBefore (year : Nat) : Nat :=
  365 * (year - 1) + (year - 1) / 4 - (year - 1) / 100 + (year - 1) / 400

/-- Days from a fixed day. -/
def dayNumber (d : Day) : Nat :=
  (List.range (d.month - 1)).foldl (fun days m => days + daysIn d.year (m + 1)) (daysBefore d.year)
    + d.day

/-- The millionths of a second from a fixed moment in universal time. -/
def instant (d : Day) (c : Clock) : Int :=
  ((dayNumber d * 1440 + c.hour * 60 + c.minute - c.offset.getD 0 : Int) * 60 + c.second) * 1000000
    + c.micro

/-- Whether two dates or times are the same. Moments with offsets are the same where they are so in
universal time. -/
def same (s t : Timestamp) : Bool :=
  match s.clock, t.clock with
  | none, none => s.day == t.day
  | some c, some d =>
    c.offset.isSome == d.offset.isSome && instant s.day c == instant t.day d
  | _, _ => false

end Timestamp

end NorFlash.Yaml
