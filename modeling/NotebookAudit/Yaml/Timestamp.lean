import NotebookAudit.Yaml.Error

/-!
Dates and times.

A timestamp is a date, or a date and a time of day with an optional distance from universal time.
-/

namespace NotebookAudit.Yaml

/-- A day of the calendar. -/
structure Date where
  year : Nat
  month : Nat
  day : Nat
  deriving Repr, DecidableEq

/-- A time of day. -/
structure TimeOfDay where
  hour : Nat
  minute : Nat
  second : Nat
  microsecond : Nat
  /-- The distance from universal time in minutes. -/
  offset : Option Int
  deriving Repr, DecidableEq

/-! ## Written timestamps -/

/-- A timestamp as it is written. -/
structure Stamp where
  year : Text
  month : Text
  day : Text
  /-- Hour, minute and second. -/
  time : Option (Text × Text × Text)
  fraction : Text
  /-- Whether the distance from universal time is negative, its hours and its minutes. -/
  zone : Option (Bool × Text × Text)
  deriving Repr, DecidableEq

namespace Stamp

/-- The digits in front of a text, between `least` and `most` of them, and the rest. -/
def takeDigits (least most : Nat) (t : Text) : Option (Text × Text) :=
  let digits := (t.take most).takeWhile (·.isAsciiDigit)
  if least ≤ digits.length then some (digits, t.drop digits.length) else none

/-- The text after a character that stands in front. -/
def takeChar (c : Char) : Text → Option Text
  | [] => none
  | d :: rest => if d = c.toNat then some rest else none

/-- The text after the blanks in front. -/
def dropBlanks (t : Text) : Text := t.dropWhile fun c => c == 0x20 || c == 0x09

/-- The text after what stands between a date and a time. -/
def takeGap : Text → Option Text
  | 0x54 :: rest | 0x74 :: rest => some rest
  | c :: rest => if c = 0x20 ∨ c = 0x09 then some (dropBlanks rest) else none
  | [] => none

/-- A distance from universal time that is all of a text. -/
def zone? (t : Text) : Option (Bool × Text × Text) :=
  match t with
  | [0x5a] => some (false, [], [])
  | c :: rest =>
    if c = 0x2b ∨ c = 0x2d then do
      let (hour, t) ← takeDigits 1 2 rest
      if t = [] then return (c == 0x2d, hour, [])
      let t ← takeChar ':' t
      let (minute, t) ← takeDigits 2 2 t
      if t = [] then return (c == 0x2d, hour, minute) else none
    else none
  | [] => none

/-- The timestamp that a text writes, after a final line break is dropped. -/
def ofText? (t : Text) : Option Stamp := do
  let t := if t.endsWith [0x0a] then t.dropLast else t
  let (year, t) ← takeDigits 4 4 t
  let t ← takeChar '-' t
  let (month, t) ← takeDigits 1 2 t
  let t ← takeChar '-' t
  let (day, t) ← takeDigits 1 2 t
  if t = [] then return ⟨year, month, day, none, [], none⟩
  let t ← takeGap t
  let (hour, t) ← takeDigits 1 2 t
  let t ← takeChar ':' t
  let (minute, t) ← takeDigits 2 2 t
  let t ← takeChar ':' t
  let (second, t) ← takeDigits 2 2 t
  let (fraction, t) := match takeChar '.' t with
    | some t => (t.takeWhile (·.isAsciiDigit), t.dropWhile (·.isAsciiDigit))
    | none => ([], t)
  if t = [] then return ⟨year, month, day, some (hour, minute, second), fraction, none⟩
  let zone ← zone? (dropBlanks t)
  return ⟨year, month, day, some (hour, minute, second), fraction, some zone⟩

/-- Whether a timestamp is recognised without a tag: a date alone needs all its digits. -/
def isPlain (s : Stamp) : Bool := s.time.isSome || (s.month.length == 2 && s.day.length == 2)

end Stamp

/-! ## Values -/

/-- Whether a year has a leap day. -/
def isLeap (year : Nat) : Bool := year % 4 == 0 && (year % 100 != 0 || year % 400 == 0)

/-- The number of days of a month. -/
def daysOf (year month : Nat) : Nat :=
  if month = 2 then (if isLeap year then 29 else 28)
  else if month = 4 ∨ month = 6 ∨ month = 9 ∨ month = 11 then 30
  else 31

/-- The date of a year, a month and a day. -/
def Date.of (year month day : Nat) : Except DatePart Date :=
  if year = 0 ∨ 9999 < year then .error (.year year)
  else if month = 0 ∨ 12 < month then .error .month
  else if day = 0 ∨ daysOf year month < day then .error .day
  else .ok ⟨year, month, day⟩

namespace Stamp

/-- The microseconds of a fraction: its first six digits. -/
def microsecond (s : Stamp) : Nat :=
  Numeral.value 10 ((s.fraction ++ List.replicate 6 0x30).take 6)

/-- The distance from universal time in minutes, which is less than a day. -/
def offset (s : Stamp) : Except DatePart (Option Int) :=
  match s.zone with
  | none => .ok none
  | some (negative, hour, minute) =>
    let size : Int := (Numeral.value 10 hour * 60 + Numeral.value 10 minute : Nat)
    let minutes := if negative then -size else size
    if size < 1440 then .ok (some minutes) else .error (.offset minutes)

/-- The date and the time of day of a timestamp. -/
def value (s : Stamp) : Except DatePart (Date × Option TimeOfDay) := do
  let date := Date.of (Numeral.value 10 s.year) (Numeral.value 10 s.month) (Numeral.value 10 s.day)
  match s.time with
  | none => return (← date, none)
  | some (hour, minute, second) =>
    let offset ← s.offset
    let date ← date
    let hour := Numeral.value 10 hour
    let minute := Numeral.value 10 minute
    let second := Numeral.value 10 second
    if 23 < hour then throw .hour
    if 59 < minute then throw .minute
    if 59 < second then throw .second
    return (date, some ⟨hour, minute, second, s.microsecond, offset⟩)

end Stamp

/-! ## Display -/

/-- A number with zeros in front up to a width. -/
def padded (width n : Nat) : Text :=
  let digits := Text.ofNat n
  List.replicate (width - digits.length) 0x30 ++ digits

/-- A date in the calendar's notation. -/
def Date.iso (d : Date) : Text :=
  padded 4 d.year ++ "-" ++ padded 2 d.month ++ "-" ++ padded 2 d.day

/-- A time of day in the usual notation. -/
def TimeOfDay.iso (t : TimeOfDay) : Text :=
  let fraction := if t.microsecond = 0 then [] else 0x2e :: padded 6 t.microsecond
  let zone := match t.offset with
    | none => []
    | some m => Text.ofString (if m < 0 then "-" else "+") ++ padded 2 (m.natAbs / 60)
        ++ Text.ofString ":" ++ padded 2 (m.natAbs % 60)
  padded 2 t.hour ++ ":" ++ padded 2 t.minute ++ ":" ++ padded 2 t.second ++ fraction ++ zone

/-- Numbers with a comma and a blank between each two. -/
def listed (ns : List Nat) : Text :=
  match ns with
  | [] => []
  | n :: rest => Text.ofNat n ++ rest.flatMap fun n => Text.ofString ", " ++ Text.ofNat n

/-- A date as a value inside another. -/
def Date.shown (d : Date) : Text := "datetime.date(" ++ listed [d.year, d.month, d.day] ++ ")"

/-- A distance from universal time as a value inside another. -/
def shownZone (minutes : Int) : Text :=
  if minutes = 0 then "datetime.timezone.utc"
  else "datetime.timezone(" ++ shownSpan minutes ++ ")"

/-- A date with a time of day as a value inside another. Seconds are left out if they are zero. -/
def TimeOfDay.shown (d : Date) (t : TimeOfDay) : Text :=
  let tail := if t.microsecond ≠ 0 then [t.second, t.microsecond]
    else if t.second ≠ 0 then [t.second] else []
  let zone := match t.offset with
    | none => []
    | some m => Text.ofString ", tzinfo=" ++ shownZone m
  "datetime.datetime(" ++ listed ([d.year, d.month, d.day, t.hour, t.minute] ++ tail) ++ zone ++ ")"

end NotebookAudit.Yaml
