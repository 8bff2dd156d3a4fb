import ProgramOutline.Data.Basic
import ProgramOutline.Text.Pieces

/-!
# Numbers, truth values and dates in TOML

Scalars without quotes are read as tokens. Digits may be grouped by single underscores, decimal
numbers have no leading zeros, and integers are 64-bit numbers. Dates must exist in the calendar.
-/

namespace ProgramOutline.Toml

/-- Is `c` a decimal digit? -/
def isDigit (c : Char) : Bool := '0' ≤ c && c ≤ '9'

/-- Digits with single underscores between them, without the underscores. -/
def groupedDigits? (digit : Char → Bool) (text : List Char) : Option (List Char) :=
  let groups := Text.splitOn '_' text
  if groups.all (fun g => !g.isEmpty && g.all digit) then some groups.flatten else none

/-- The digits of a decimal number without leading zeros. -/
def decimalDigits? (text : List Char) : Option (List Char) :=
  match text with
  | '0' :: _ :: _ => none
  | text => groupedDigits? isDigit text

/-- A sign and what follows it. -/
def sign (text : List Char) : Bool × List Char :=
  match text with
  | '-' :: rest => (true, rest)
  | '+' :: rest => (false, rest)
  | rest => (false, rest)

/-- A 64-bit number. -/
def word? (n : Int) : Option Data :=
  if -0x8000000000000000 ≤ n ∧ n < 0x8000000000000000 then some (.int n) else none

/-- The value of a digit below the base. -/
def digitBelow? (base : Nat) (c : Char) : Option Nat := (Text.hexDigit? c).filter (· < base)

/-- An integer in a base marked by a letter. -/
def based? (base : Nat) (text : List Char) : Option Data := do
  let digits ← groupedDigits? (fun c => (digitBelow? base c).isSome) text
  word? (← Text.number? base (digitBelow? base) digits)

/-- An integer. -/
def integer? (text : List Char) : Option Data :=
  match text with
  | '0' :: 'x' :: rest => based? 16 rest
  | '0' :: 'o' :: rest => based? 8 rest
  | '0' :: 'b' :: rest => based? 2 rest
  | text => do
    let (negative, digits) := sign text
    let n ← Text.decimalNumber? (← decimalDigits? digits)
    word? (if negative then -(n : Int) else n)

/-- The least number that is no longer nearer to a 64-bit floating-point number than to infinity. -/
def floatLimit : Nat := Nat.pow 2 1024 - Nat.pow 2 970

/-- Is the number with the given digits and power of ten beyond all floating-point numbers? -/
def beyondFloats (digits : List Char) (power : Int) : Bool :=
  let mantissa := (Text.decimalNumber? digits).getD 0
  if mantissa = 0 then false
  else if 309 ≤ power then true
  else if 0 ≤ power then floatLimit ≤ mantissa * Nat.pow 10 power.toNat
  else digits.length > (-power).toNat && floatLimit * Nat.pow 10 (-power).toNat ≤ mantissa

/-- The value of an exponent. -/
def exponentValue (text : List Char) : Int :=
  let (negative, digits) := sign text
  let value := (Text.decimalNumber? (digits.filter (· != '_'))).getD 0
  if negative then -(value : Int) else value

/-- A floating-point number: a fraction, an exponent or both after a decimal number, or a special
    value. A positive number must not be so large that it counts as infinite. -/
def float? (text : List Char) : Option Data :=
  let (negative, unsigned) := sign text
  if unsigned = "inf".toList || unsigned = "nan".toList then some (.real (String.ofList text))
  else
    let isExponentMark (c : Char) : Bool := c == 'e' || c == 'E'
    let mantissa := unsigned.takeWhile (fun c => !isExponentMark c)
    let exponent := unsigned.dropWhile (fun c => !isExponentMark c)
    let whole := mantissa.takeWhile (· != '.')
    let fraction := mantissa.dropWhile (· != '.')
    let wholeOk := (decimalDigits? whole).isSome
    let fractionOk := match fraction with
      | [] => !exponent.isEmpty
      | _ :: digits => (groupedDigits? isDigit digits).isSome
    let exponentOk := match exponent with
      | [] => true
      | _ :: digits => (groupedDigits? isDigit (sign digits).2).isSome
    let places := fraction.filter isDigit
    let power := exponentValue (exponent.drop 1) - places.length
    let infinite := !negative && beyondFloats (whole.filter isDigit ++ places) power
    if wholeOk && fractionOk && exponentOk && !infinite then some (.real (String.ofList text))
    else none

/-! ## Dates and times -/

/-- The days of a month. -/
def monthDays (year month : Nat) : Nat :=
  if month = 2 then
    if (year % 4 = 0 && year % 100 ≠ 0) || year % 400 = 0 then 29 else 28
  else if month = 4 || month = 6 || month = 9 || month = 11 then 30
  else 31

/-- A number of exactly the given digits within bounds. -/
def fieldIn? (low high : Nat) (digits : List Char) : Option Nat :=
  if digits.all isDigit then
    (Text.decimalNumber? digits).filter (fun n => low ≤ n && n ≤ high)
  else none

/-- Reads a date; the result is the rest. -/
def date? (text : List Char) : Option (List Char) :=
  match text with
  | a :: b :: c :: d :: '-' :: e :: f :: '-' :: g :: h :: rest => do
    let year ← fieldIn? 0 9999 [a, b, c, d]
    let month ← fieldIn? 1 12 [e, f]
    let _ ← fieldIn? 1 (monthDays year month) [g, h]
    return rest
  | _ => none

/-- Reads a time; the result is the rest. -/
def time? (text : List Char) : Option (List Char) :=
  match text with
  | a :: b :: ':' :: c :: d :: ':' :: e :: f :: rest => do
    let _ ← fieldIn? 0 23 [a, b]
    let _ ← fieldIn? 0 59 [c, d]
    let _ ← fieldIn? 0 60 [e, f]
    match rest with
    | '.' :: fraction =>
      if (fraction.takeWhile isDigit).isEmpty then none else return fraction.dropWhile isDigit
    | rest => return rest
  | _ => none

/-- Reads an offset from universal time, if there is one; the result is the rest. -/
def zone? (text : List Char) : Option (List Char) :=
  match text with
  | 'Z' :: rest => some rest
  | 'z' :: rest => some rest
  | s :: a :: b :: ':' :: c :: d :: rest =>
    if s = '+' || s = '-' then do
      let _ ← fieldIn? 0 23 [a, b]
      let _ ← fieldIn? 0 59 [c, d]
      return rest
    else some text
  | text => some text

/-- Does a time start here, as far as the colon? -/
def startsTime (text : List Char) : Bool :=
  match text with
  | a :: b :: ':' :: _ => isDigit a && isDigit b
  | _ => false

/-- Does a date start here, as far as the first hyphen? -/
def startsDate (text : List Char) : Bool :=
  match text with
  | a :: b :: c :: d :: '-' :: _ => isDigit a && isDigit b && isDigit c && isDigit d
  | _ => false

/-- Reads a date with or without a time; the result is the rest. -/
def dateTime? (text : List Char) : Option (List Char) := do
  let rest ← date? text
  match rest with
  | mark :: after =>
    if (mark = 'T' || mark = 't' || mark = ' ') && startsTime after then
      zone? (← time? after)
    else return rest
  | [] => return []

/-- The part of a text before its rest. -/
def readPart (text rest : List Char) : List Char := text.take (text.length - rest.length)

/-- May `c` belong to a number or a word? -/
def isTokenChar (c : Char) : Bool :=
  c.isAlphanum || c == '_' || c == '+' || c == '-' || c == '.'

/-- Reads a scalar without quotes. -/
def readScalar? (text : List Char) : Option (Data × List Char) :=
  if startsDate text then
    (dateTime? text).map (fun rest => (.stamp (String.ofList (readPart text rest)), rest))
  else if startsTime text then
    (time? text).map (fun rest => (.stamp (String.ofList (readPart text rest)), rest))
  else
    let token := text.takeWhile isTokenChar
    let rest := text.dropWhile isTokenChar
    let value? : Option Data := match String.ofList token with
      | "true" => some (.bool true)
      | "false" => some (.bool false)
      | _ => (float? token).or (integer? token)
    value?.map (fun value => (value, rest))

end ProgramOutline.Toml
