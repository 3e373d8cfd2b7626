import NotebookAudit.Json.Reader

/-!
The grammar of JSON texts.

`Json.Document` says which texts spell which values, without reading them: a value with blanks around
it (`Json.Spells`), whose strings are written character by character (`Json.Body`) and whose numbers
are whole numbers within the digit limit, or have a fraction or an exponent (`Json.Magnitude`). Arrays
and objects nest at most as deep as the number that `Json.Spells` carries.
-/

namespace NotebookAudit.Json

/-- Only blanks. -/
def IsBlanks (t : Text) : Prop := ∀ c ∈ t, Cursor.isBlank c = true

/-! ## Strings -/

/-- The text goes on with the escape of the second half of a surrogate pair. -/
def StartsWithLow (t : Text) : Prop :=
  ∃ digits low rest, hex4? digits = some low ∧ isLowSurrogate low = true ∧
    t = 0x5c :: 0x75 :: (digits ++ rest)

/-- What stands between the quotes of a string, and the text that it spells. -/
inductive Body : Text → Text → Prop
  | nil : Body [] []
  | plain {c : CodePoint} {s t : Text} (visible : 0x1f < c) (notQuote : c ≠ 0x22)
    (notBackslash : c ≠ 0x5c) (rest : Body s t) : Body (c :: s) (c :: t)
  | letter {c d : CodePoint} {s t : Text} (escaped : escapedChar? c = some d) (rest : Body s t) :
    Body (0x5c :: c :: s) (d :: t)
  /-- A Unicode escape. If it is the first half of a surrogate pair, the second must not follow. -/
  | unit {digits : Text} {c : CodePoint} {s t : Text} (spelled : hex4? digits = some c)
    (single : isHighSurrogate c = true → ¬ StartsWithLow s) (rest : Body s t) :
    Body (0x5c :: 0x75 :: (digits ++ s)) (c :: t)
  /-- Two Unicode escapes that are the halves of a surrogate pair. -/
  | pair {digits digits' : Text} {high low : CodePoint} {s t : Text}
    (first : hex4? digits = some high) (isHigh : isHighSurrogate high = true)
    (second : hex4? digits' = some low) (isLow : isLowSurrogate low = true) (rest : Body s t) :
    Body (0x5c :: 0x75 :: (digits ++ 0x5c :: 0x75 :: (digits' ++ s))) (joinSurrogates high low :: t)

/-! ## Numbers -/

/-- Only digits. -/
def IsDigits (t : Text) : Prop := ∀ c ∈ t, c.isAsciiDigit = true

/-- The digits of a whole number: a zero, or digits of which the first is none. -/
inductive IsWhole : Text → Prop
  | zero : IsWhole [0x30]
  | digits {c : CodePoint} {rest : Text} (first : c ≠ 0x30) (digits : IsDigits (c :: rest)) :
    IsWhole (c :: rest)

/-- The fraction of the digits, with its point; nothing without digits. -/
def pointed : Text → Text
  | [] => []
  | digits => 0x2e :: digits

/-- A sign, and whether it is a minus. -/
inductive Sign : Text → Bool → Prop
  | absent : Sign [] false
  | plus : Sign [0x2b] false
  | minus : Sign [0x2d] true

/-- What stands for the exponent of a number, and its value. -/
inductive Exponent : Text → Int → Prop
  | absent : Exponent [] 0
  | present {e : CodePoint} {sign digits : Text} {negative : Bool} (letter : e = 0x65 ∨ e = 0x45)
    (isSign : Sign sign negative) (nonempty : digits ≠ []) (areDigits : IsDigits digits) :
    Exponent (e :: (sign ++ digits)) (if negative then -(Numeral.value 10 digits : Int)
      else Numeral.value 10 digits)

/-- What stands for a number after its sign, and the number: an integer of no more digits than the
limit, or a double if there is a fraction or an exponent. -/
inductive Magnitude (negative : Bool) : Text → Json → Prop
  | int {whole : Text} (isWhole : IsWhole whole) (short : whole.length ≤ digitLimit) :
    Magnitude negative whole (.int (if negative then -(Numeral.value 10 whole : Int)
      else Numeral.value 10 whole))
  | float {whole fraction exponent : Text} {scale : Int} (isWhole : IsWhole whole)
    (isFraction : IsDigits fraction) (isExponent : Exponent exponent scale)
    (noInt : fraction ≠ [] ∨ exponent ≠ []) :
    Magnitude negative (whole ++ (pointed fraction ++ exponent))
      (.float (.ofDecimal negative (Numeral.value 10 (whole ++ fraction)) (scale - fraction.length)))

/-! ## Values -/

/-- An item of an array: the text of its value with blanks around it. -/
structure Item where
  before : Text
  text : Text
  after : Text
  value : Json
  isBefore : IsBlanks before
  isAfter : IsBlanks after

/-- The whole text of an item. -/
def Item.spelling (i : Item) : Text := i.before ++ (i.text ++ i.after)

/-- A member of an object: its name between quotes, a colon, and its value as an item. -/
structure Member where
  before : Text
  body : Text
  after : Text
  name : Text
  item : Item
  isBefore : IsBlanks before
  isAfter : IsBlanks after
  isName : Body body name

/-- The whole text of a member. -/
def Member.spelling (m : Member) : Text :=
  m.before ++ 0x22 :: (m.body ++ 0x22 :: (m.after ++ 0x3a :: m.item.spelling))

/-- The text spells the value, in which arrays and objects nest at most `depth` deep. -/
inductive Spells : (depth : Nat) → Text → Json → Prop
  | word {depth : Nat} {word : Text} {v : Json} (known : (word, v) ∈ words) : Spells depth word v
  | number {depth : Nat} {t : Text} {v : Json} (magnitude : Magnitude false t v) : Spells depth t v
  | negative {depth : Nat} {t : Text} {v : Json} (magnitude : Magnitude true t v) :
    Spells depth (0x2d :: t) v
  | text {depth : Nat} {body t : Text} (isBody : Body body t) :
    Spells depth (0x22 :: (body ++ [0x22])) (.text t)
  | emptyArray {depth : Nat} {inside : Text} (blanks : IsBlanks inside) :
    Spells (depth + 1) (0x5b :: (inside ++ [0x5d])) (.array [])
  | array {depth : Nat} {items : List Item} (nonempty : items ≠ [])
    (each : ∀ i ∈ items, Spells depth i.text i.value) :
    Spells (depth + 1) (0x5b :: (Text.joinWith 0x2c (items.map (·.spelling)) ++ [0x5d]))
      (.array (items.map (·.value)))
  | emptyObject {depth : Nat} {inside : Text} (blanks : IsBlanks inside) :
    Spells (depth + 1) (0x7b :: (inside ++ [0x7d])) (.object [])
  | object {depth : Nat} {members : List Member} (nonempty : members ≠ [])
    (each : ∀ m ∈ members, Spells depth m.item.text m.item.value) :
    Spells (depth + 1) (0x7b :: (Text.joinWith 0x2c (members.map (·.spelling)) ++ [0x7d]))
      (.object (ofMembers (members.map fun m => (m.name, m.item.value))))

/-- The text is one value with blanks around it. -/
def Document (t : Text) (v : Json) : Prop :=
  ∃ before text after, IsBlanks before ∧ IsBlanks after ∧ t = before ++ (text ++ after) ∧
    Spells depthLimit text v

theorem joinWith_cons (c : CodePoint) (t : Text) {rest : List Text} (nonempty : rest ≠ []) :
    Text.joinWith c (t :: rest) = t ++ c :: Text.joinWith c rest := by
  cases rest with
  | nil => exact absurd rfl nonempty
  | cons u rest => rfl

end NotebookAudit.Json
