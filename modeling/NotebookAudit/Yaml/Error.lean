import NotebookAudit.Number.Numeral

/-!
Why a YAML text is not read.

A text that is not well formed is one matter; a scalar that is well formed and has no value is
another, since it stops more than the reading of its file.
-/

namespace NotebookAudit.Yaml

/-- The part of a date or of a time that is out of its range. -/
inductive DatePart where
  | year (value : Nat)
  | month
  | day
  | hour
  | minute
  | second
  /-- The distance from universal time, in minutes. -/
  | offset (minutes : Int)
  deriving Repr, DecidableEq

/-- Why a scalar has no value. -/
inductive ValueFault where
  /-- An escape is beyond the last code point. -/
  | codePoint
  /-- An escape is too great for a machine word. -/
  | codePointTooGreat
  | numeral (fault : NumeralFault)
  /-- A number without digits. -/
  | emptyNumber
  | notDouble (text : Text)
  | notSwitch
  | notTimestamp
  | date (part : DatePart)
  deriving Repr, DecidableEq

/-- Why a text is not read. -/
inductive Error where
  /-- The text is not well formed, or tags and contents do not fit. -/
  | malformed
  /-- Collections are nested too deep. -/
  | tooDeep
  /-- A scalar has no value. -/
  | value (fault : ValueFault)
  deriving Repr, DecidableEq

/-- A span of days and seconds in messages: the parts that are not zero. -/
def shownSpan (minutes : Int) : Text :=
  let days := minutes / 1440
  let seconds := minutes % 1440 * 60
  let parts := (if days = 0 then [] else [Text.ofString "days=" ++ Text.ofInt days])
    ++ (if seconds = 0 then [] else [Text.ofString "seconds=" ++ Text.ofInt seconds])
  let inside := match parts with
    | [] => Text.ofString "0"
    | [a] => a
    | a :: b :: _ => a ++ Text.ofString ", " ++ b
  "datetime.timedelta(" ++ inside ++ ")"

/-- What is wrong with a date, in words. -/
def DatePart.message : DatePart → Text
  | year value => "year " ++ Text.ofNat value ++ " is out of range"
  | month => "month must be in 1..12"
  | day => "day is out of range for month"
  | hour => "hour must be in 0..23"
  | minute => "minute must be in 0..59"
  | second => "second must be in 0..59"
  | offset minutes =>
    "offset must be a timedelta strictly between -timedelta(hours=24) and timedelta(hours=24), not "
      ++ shownSpan minutes

/-- Why a scalar has no value, in words. -/
def ValueFault.message : ValueFault → Text
  | codePoint => "chr() arg not in range(0x110000)"
  | codePointTooGreat => "Python int too large to convert to C int"
  | numeral fault => fault.message
  | emptyNumber => "string index out of range"
  | notDouble text => "could not convert string to float: " ++ text.quoted
  | notSwitch | notTimestamp => []
  | date part => part.message

end NotebookAudit.Yaml
