import TimingScript.Decimal.Stored
import TimingScript.Text.Numeral
import TimingScript.Text.Quotation

/-! # Meanings — what plain scalars stand for

    A plain scalar stands for nothing, a truth value, a number or its own
    text, depending on how it is spelled.  Whole numbers are decimal, or
    hexadecimal, octal or binary behind a mark; those that do not fit
    into 128 bits are floating point numbers, like all others. -/

namespace TimingScript.Settings

/-- What a scalar stands for. -/
inductive Meaning where
  | null
  | truth (value : Bool)
  | integer (value : Int)
  | number (isNegative : Bool) (magnitude : Decimal)
  | infinity (isNegative : Bool)
  /-- The outcome of no calculation. -/
  | undefined
  | text (text : String)
deriving DecidableEq, Repr

/-! ## Spellings -/

/-- Whether a text is a spelling of a value that is not given. -/
def isNull (text : String) : Bool :=
  text ∈ ["~", "null", "Null", "NULL"]

/-- The truth value that a text spells. -/
def truth? (text : String) : Option Bool :=
  if text ∈ ["true", "True", "TRUE"] then some true
  else if text ∈ ["false", "False", "FALSE"] then some false
  else none

/-- Whether some characters are digits with a zero in front of others,
    which make no number. -/
def isZeroLed (digits : List Char) : Bool :=
  1 < digits.length && digits.head? = some '0' && digits.all Char.isDigit

/-- A whole number without a sign. -/
def unsigned? : List Char → Option Nat
  | '0' :: 'x' :: digits => Text.Numeral.value? 16 digits
  | '0' :: 'o' :: digits => Text.Numeral.value? 8 digits
  | '0' :: 'b' :: digits => Text.Numeral.value? 2 digits
  | digits =>
      if isZeroLed digits then none else Text.Numeral.value? 10 digits

/-- The characters of a number behind its sign, and whether that is a
    minus sign. -/
def signed (text : String) : Bool × List Char :=
  match text.toList with
  | '-' :: digits => (true, digits)
  | '+' :: digits => (false, digits)
  | digits => (false, digits)

/-- A whole number that a text spells without a minus sign. -/
def natural? (text : String) : Option Nat :=
  let (isNegative, digits) := signed text
  if isNegative then none else unsigned? digits

/-- The whole number below 2^64 that a text spells. -/
def whole? (text : String) : Option Nat :=
  (natural? text).filter (· < Nat.pow 2 64)

/-- The whole number that a text spells, if it fits into 128 bits, one of
    which a negative number needs for its sign. -/
def integer? (text : String) : Option Int :=
  let (isNegative, digits) := signed text
  (unsigned? digits).bind fun n =>
    if isNegative then
      if n ≤ Nat.pow 2 127 then some (-(n : Int)) else none
    else if n < Nat.pow 2 128 then some n else none

/-- The power of ten behind a number, at the end of it. -/
def power? : List Char → Option Int
  | [] => some 0
  | c :: rest =>
      if c = 'e' || c = 'E' then
        match rest with
        | '-' :: digits =>
            (Text.Numeral.value? 10 digits).map fun n => -(n : Int)
        | '+' :: digits => (Text.Numeral.value? 10 digits).map Int.ofNat
        | digits => (Text.Numeral.value? 10 digits).map Int.ofNat
      else none

/-- A number with a point or a power of ten, or without them.  There is a
    digit on one side of the point at least. -/
def decimal? (chars : List Char) : Option Decimal :=
  let whole := chars.takeWhile Char.isDigit
  let behind := chars.dropWhile Char.isDigit
  let (part, rest) := match behind with
    | '.' :: others =>
        (others.takeWhile Char.isDigit, others.dropWhile Char.isDigit)
    | others => ([], others)
  match Text.Numeral.value? 10 (whole ++ part), power? rest with
  | some digits, some power => some ⟨digits, power - part.length⟩
  | _, _ => none

/-- Whether some characters spell infinity, apart from the sign. -/
def isInfinity (chars : List Char) : Bool :=
  String.ofList chars ∈ [".inf", ".Inf", ".INF"]

/-- Whether a text spells the number that is none. -/
def isUndefined (text : String) : Bool :=
  text ∈ [".nan", ".NaN", ".NAN"]

/-- The floating point number that a text spells.  One that is too large
    to be stored is none. -/
def float? (text : String) : Option Meaning :=
  let (isNegative, chars) := signed text
  if isInfinity chars then some (.infinity isNegative)
  else if isUndefined text then some .undefined
  else
    ((decimal? chars).bind Decimal.stored?).map (.number isNegative)

/-- The meaning of a plain scalar. -/
def Meaning.of (scalar : String) : Meaning :=
  if scalar.isEmpty || isNull scalar then null
  else
    match truth? scalar, integer? scalar with
    | some value, _ => truth value
    | none, some value => integer value
    | none, none =>
        if isZeroLed (signed scalar).2 then text scalar
        else (float? scalar).getD (text scalar)

/-! ## Wording -/

/-- A whole number in the words of a message, which says how it is stored
    if 64 bits are too few. -/
def integerDescription (value : Int) : String :=
  if (Nat.pow 2 64 : Int) ≤ value then s!"integer `{value}` as u128"
  else if value < -(Nat.pow 2 63 : Int) then
    s!"integer `{value}` as i128"
  else s!"integer `{value}`"

/-- The sign in front of a number. -/
def minus (isNegative : Bool) : String := if isNegative then "-" else ""

/-- A meaning in the words of a message. -/
def Meaning.description : Meaning → String
  | null => "unit value"
  | truth value => s!"boolean `{value}`"
  | integer value => integerDescription value
  | number isNegative magnitude =>
      s!"floating point `{minus isNegative}{magnitude.pointedText}`"
  | infinity isNegative => s!"floating point `{minus isNegative}inf`"
  | undefined => "floating point `NaN`"
  | .text scalar => s!"string {Text.Quotation.quote scalar}"

end TimingScript.Settings
