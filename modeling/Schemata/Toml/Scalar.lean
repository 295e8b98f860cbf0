import Schemata.Text.Split
import Schemata.Toml.Value

/-!
# Numbers, moments and words of TOML

Everything that is written without quotes or brackets. Underscores may stand
between digits; whole numbers have no needless zeros and fit in 64 bits; a float
may not be so great that it is infinite; dates and times exist in the calendar and
on the clock, where a minute may have a sixtieth second.
-/

namespace Schemata.Toml

/-! ## Numbers -/

/-- Digits of some kind, without the underscores that stand between them. -/
def digits? (isDigit : Char → Bool) (text : List Char) : Option (List Char) :=
  let runs := Text.splitWhere (· = '_') text
  if runs.all fun run => !run.isEmpty && run.all isDigit then some runs.flatten else none

/-- The value of a digit of a base up to sixteen. -/
def digitValue (c : Char) : Nat :=
  if c.isDigit then c.toNat - '0'.toNat
  else if c.isLower then c.toNat - 'a'.toNat + 10
  else c.toNat - 'A'.toNat + 10

/-- The value of digits in a base. -/
def valueInBase (base : Nat) (digits : List Char) : Nat :=
  digits.foldl (fun value c => value * base + digitValue c) 0

/-- Whether a character is a digit of base sixteen. -/
def isHexDigit (c : Char) : Bool :=
  c.isDigit || ('a' ≤ c && c ≤ 'f') || ('A' ≤ c && c ≤ 'F')

/-- Decimal digits without needless zeros. -/
def wholeDigits? (text : List Char) : Option (List Char) :=
  match digits? Char.isDigit text with
  | some ('0' :: _ :: _) => none
  | found => found

/-- A text without its sign, and whether the sign is a minus. -/
def takeSign : List Char → Bool × List Char
  | '-' :: rest => (true, rest)
  | '+' :: rest => (false, rest)
  | text => (false, text)

/-- Whether a number fits in 64 bits. -/
def fitsWord (value : Int) : Bool :=
  -9223372036854775808 ≤ value && value ≤ 9223372036854775807

/-- A whole number. -/
def integer? (text : List Char) : Option Int :=
  let found : Option Int := match text with
    | '0' :: 'x' :: rest => (digits? isHexDigit rest).map fun d => valueInBase 16 d
    | '0' :: 'o' :: rest =>
      (digits? (fun c => '0' ≤ c && c ≤ '7') rest).map fun d => valueInBase 8 d
    | '0' :: 'b' :: rest =>
      (digits? (fun c => c = '0' || c = '1') rest).map fun d => valueInBase 2 d
    | text =>
      let (negative, rest) := takeSign text
      (wholeDigits? rest).map fun d =>
        if negative then -(valueInBase 10 d : Int) else valueInBase 10 d
  found.filter fitsWord

/-- The least number that is rounded to infinity. -/
def infinityBound : Nat := Nat.pow 2 1024 - Nat.pow 2 970

/--
Whether a number with some digits and a power of ten is rounded to infinity. Numbers
of less than 308 or more than 310 places are decided without computing them.
-/
def isInfinite (digits : List Char) (exponent : Int) : Bool :=
  let significant := digits.dropWhile (· = '0')
  let places : Int := significant.length + exponent
  if significant.isEmpty || places < 308 then false
  else if 310 < places then true
  else
    let value := valueInBase 10 significant
    if exponent < 0 then infinityBound * Nat.pow 10 exponent.natAbs ≤ value
    else infinityBound ≤ value * Nat.pow 10 exponent.natAbs

/-- A fraction or none, and whether there is one. -/
def fraction? : List (List Char) → Option (List Char × Bool)
  | [] => some ([], false)
  | [text] => (digits? Char.isDigit text).map fun digits => (digits, true)
  | _ => none

/-- An exponent or none, and whether there is one. -/
def exponent? : List (List Char) → Option (Int × Bool)
  | [] => some (0, false)
  | [text] =>
    let (negative, rest) := takeSign text
    (digits? Char.isDigit rest).map fun digits =>
      let value : Int := valueInBase 10 digits
      (if negative then -value else value, true)
  | _ => none

/-- Whether a text is a float that has digits. A great negative float is let through. -/
def isDecimalFloat (text : List Char) : Bool :=
  let (negative, unsigned) := takeSign text
  match Text.splitWhere (fun c => c = 'e' || c = 'E') unsigned with
  | [] => false
  | mantissa :: power =>
    match Text.splitWhere (· = '.') mantissa with
    | [] => false
    | whole :: fraction =>
      match wholeDigits? whole, fraction? fraction, exponent? power with
      | some whole, some (fraction, hasFraction), some (exponent, hasExponent) =>
        (hasFraction || hasExponent) &&
          (negative || !isInfinite (whole ++ fraction) (exponent - fraction.length))
      | _, _, _ => false

/-- Whether a text is a float. -/
def isFloat (text : List Char) : Bool :=
  let (_, unsigned) := takeSign text
  unsigned = "inf".toList || unsigned = "nan".toList || isDecimalFloat text

/-! ## Moments -/

/-- Two digits as a number. -/
def twoDigits? (tens ones : Char) : Option Nat :=
  if tens.isDigit && ones.isDigit then some (valueInBase 10 [tens, ones]) else none

/-- The number of days of a month. -/
def daysInMonth (year month : Nat) : Nat :=
  if month = 2 then
    if year % 4 = 0 && (year % 100 ≠ 0 || year % 400 = 0) then 29 else 28
  else if month = 4 || month = 6 || month = 9 || month = 11 then 30
  else 31

/-- The rest of a text behind a date. -/
def skipDate? : List Char → Option (List Char)
  | y₁ :: y₂ :: y₃ :: y₄ :: '-' :: m₁ :: m₂ :: '-' :: d₁ :: d₂ :: rest => do
    let century ← twoDigits? y₁ y₂
    let year ← twoDigits? y₃ y₄
    let month ← twoDigits? m₁ m₂
    let day ← twoDigits? d₁ d₂
    if 1 ≤ month && month ≤ 12 && 1 ≤ day && day ≤ daysInMonth (century * 100 + year) month then
      some rest
    else
      none
  | _ => none

/-- The rest of a text behind a fraction of a second, if there is one. -/
def skipSecondFraction? : List Char → Option (List Char)
  | '.' :: c :: rest => if c.isDigit then some (rest.dropWhile Char.isDigit) else none
  | ['.'] => none
  | text => some text

/-- The rest of a text behind a time. -/
def skipTime? : List Char → Option (List Char)
  | h₁ :: h₂ :: ':' :: m₁ :: m₂ :: ':' :: s₁ :: s₂ :: rest => do
    let hour ← twoDigits? h₁ h₂
    let minute ← twoDigits? m₁ m₂
    let second ← twoDigits? s₁ s₂
    if hour ≤ 23 && minute ≤ 59 && second ≤ 60 then skipSecondFraction? rest else none
  | _ => none

/-- Whether a text is an offset from universal time, or empty. -/
def isOffset : List Char → Bool
  | [] => true
  | ['Z'] => true
  | ['z'] => true
  | [sign, h₁, h₂, ':', m₁, m₂] =>
    (sign = '+' || sign = '-') &&
      match twoDigits? h₁ h₂, twoDigits? m₁ m₂ with
      | some hour, some minute => hour ≤ 23 && minute ≤ 59
      | _, _ => false
  | _ => false

/-- Whether a text is a time with or without an offset. -/
def isClockTime (text : List Char) : Bool :=
  ((skipTime? text).map isOffset).getD false

/-- Whether a text is a date. -/
def isDate (text : List Char) : Bool :=
  skipDate? text = some []

/-- Whether a text is a date, a time, or both with a letter between them. -/
def isMoment (text : List Char) : Bool :=
  skipTime? text = some [] ||
    match skipDate? text with
    | some [] => true
    | some (c :: time) => (c = 'T' || c = 't') && isClockTime time
    | none => false

/-! ## Words -/

/-- Whether a character can be part of what is written without quotes or brackets. -/
def isScalarCharacter (c : Char) : Bool :=
  c.isAlphanum || c = '_' || c = '+' || c = '-' || c = '.' || c = ':'

/-- What is written without quotes or brackets. -/
def scalar? (text : List Char) : Option Value :=
  if text = "true".toList then some (.bool true)
  else if text = "false".toList then some (.bool false)
  else if isMoment text then some .moment
  else if isFloat text then some .float
  else (integer? text).map .integer

end Schemata.Toml
