import NotebookAudit.Yaml.Timestamp

/-!
Tags: what kind of value a node of a YAML document stands for.

A plain scalar has no tag of its own; `Tag.ofPlain` reads it off the text.
-/

namespace NotebookAudit.Yaml

/-- A kind of value. -/
inductive Tag where
  | null
  | bool
  | int
  | float
  | binary
  | timestamp
  | text
  | list
  | dict
  | set
  /-- An ordered list of pairs. -/
  | orderedPairs
  | pairs
  /-- A key under which other mappings are merged. -/
  | merge
  /-- A key under which a mapping keeps its own value. -/
  | value
  /-- A kind that has no values here. -/
  | other
  deriving Repr, DecidableEq

/-- What the standard's tags begin with. -/
def standardStart : Text := "tag:yaml.org,2002:"

namespace Tag

/-- The names of the standard's tags. -/
def names : List (Text × Tag) :=
  [("null", null), ("bool", bool), ("int", int), ("float", float), ("binary", binary),
   ("timestamp", timestamp), ("str", text), ("seq", list), ("map", dict), ("set", set),
   ("omap", orderedPairs), ("pairs", pairs), ("merge", merge), ("value", value)]

/-- The kind of value of a full tag. -/
def ofText (t : Text) : Tag :=
  if t.startsWith standardStart then (names.lookup (t.drop standardStart.length)).getD other
  else other

/-! ## Plain scalars -/

/-- The words for truth and falsehood. -/
def switchWords : List Text :=
  ["yes", "Yes", "YES", "no", "No", "NO", "true", "True", "TRUE", "false", "False", "FALSE", "on",
   "On", "ON", "off", "Off", "OFF"]

/-- The words for null. -/
def nullWords : List Text := ["~", "null", "Null", "NULL"]

/-- The text after a sign. -/
def dropSign : Text → Text
  | 0x2b :: rest | 0x2d :: rest => rest
  | t => t

/-- A digit or an underscore. -/
def isDigitOrBar (c : CodePoint) : Bool := c.isAsciiDigit || c == 0x5f

/-- A number of sixtieths: one digit, or two of which the first is at most five. -/
def isSixtieth : Text → Bool
  | [c] => c.isAsciiDigit
  | [c, d] => 0x30 ≤ c && c ≤ 0x35 && d.isAsciiDigit
  | _ => false

/-- Whether a text is a colon and a number of sixtieths, once or more often. -/
def isSixtieths (t : Text) : Bool :=
  match Text.cutAt 0x3a t with
  | [] :: first :: rest => (first :: rest).all isSixtieth
  | _ => false

/-- Whether a text is an integer: binary, octal, decimal, hexadecimal or to the base of sixty. -/
def isInt (t : Text) : Bool :=
  match dropSign t with
  | [0x30] => true
  | 0x30 :: 0x62 :: rest => !rest.isEmpty && rest.all fun c => c == 0x30 || c == 0x31 || c == 0x5f
  | 0x30 :: 0x78 :: rest => !rest.isEmpty && rest.all fun c => c.isHex || c == 0x5f
  | 0x30 :: rest => rest.all fun c => (0x30 ≤ c && c ≤ 0x37) || c == 0x5f
  | c :: rest =>
    let tail := rest.dropWhile isDigitOrBar
    c.isAsciiDigit && (tail.isEmpty || isSixtieths tail)
  | [] => false

/-- Whether a text is an exponent with its sign, or nothing. -/
def isExponent : Text → Bool
  | [] => true
  | e :: s :: rest =>
    (e == 0x65 || e == 0x45) && (s == 0x2b || s == 0x2d) && !rest.isEmpty
      && rest.all (·.isAsciiDigit)
  | _ => false

/-- The words for an infinity. -/
def infinityWords : List Text := [".inf", ".Inf", ".INF"]

/-- The words for not a number. -/
def nanWords : List Text := [".nan", ".NaN", ".NAN"]

/-- Whether a text is a number with a point. -/
def isFloat (t : Text) : Bool :=
  let unsigned := dropSign t
  infinityWords.contains unsigned || nanWords.contains t
    || (match t with
      | 0x2e :: c :: rest => c.isAsciiDigit && isExponent (rest.dropWhile isDigitOrBar)
      | _ => false)
    || (match unsigned with
      | c :: rest =>
        let tail := rest.dropWhile isDigitOrBar
        c.isAsciiDigit && (match tail with
          | 0x2e :: more => isExponent (more.dropWhile isDigitOrBar)
          | _ =>
            let sixtieths := tail.takeWhile (· != 0x2e)
            match tail.drop sixtieths.length with
            | 0x2e :: more => isSixtieths sixtieths && more.all isDigitOrBar
            | _ => false)
      | [] => false)

/-- The kind of value of a plain scalar, whose final line break does not count. -/
def ofPlain (t : Text) : Tag :=
  let u := if t.endsWith [0x0a] then t.dropLast else t
  if t = [] then null
  else if switchWords.contains u then bool
  else if isFloat u then float
  else if isInt u then int
  else if u = Text.ofString "<<" then merge
  else if nullWords.contains u then null
  else if ((Stamp.ofText? t).map Stamp.isPlain).getD false then timestamp
  else if u = Text.ofString "=" then value
  else if u = Text.ofString "!" ∨ u = Text.ofString "&" ∨ u = Text.ofString "*" then other
  else text

end Tag

end NotebookAudit.Yaml
