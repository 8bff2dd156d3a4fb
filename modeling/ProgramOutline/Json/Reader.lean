import ProgramOutline.Data.Basic
import ProgramOutline.Text.Pieces

/-!
# Reading JSON

`parse?` reads a JSON document. A key that occurs again in a table replaces its earlier value, and
a number with a fraction or an exponent is kept as it is written. Surrogate escapes stand for one
character in pairs and are refused alone.
-/

namespace ProgramOutline.Json

/-- Is `c` a blank between tokens? -/
def isBlank (c : Char) : Bool := c == ' ' || c == '\n' || c == '\t' || c == '\r'

/-- The text after leading blanks. -/
def skipBlanks (text : List Char) : List Char := text.dropWhile isBlank

/-- Reads four hexadecimal digits. -/
def fourHex? : List Char → Option (Nat × List Char)
  | a :: b :: c :: d :: rest => (Text.hexNumber? [a, b, c, d]).map (fun n => (n, rest))
  | _ => none

/-- Reads the character of a `\u` escape after the `u`. -/
def unicodeEscape? (text : List Char) : Option (Char × List Char) := do
  let (high, rest) ← fourHex? text
  if 0xD800 ≤ high ∧ high < 0xDC00 then
    match rest with
    | '\\' :: 'u' :: rest => do
      let (low, rest) ← fourHex? rest
      if 0xDC00 ≤ low ∧ low < 0xE000 then
        return (Char.ofNat (0x10000 + (high - 0xD800) * 0x400 + (low - 0xDC00)), rest)
      else none
    | _ => none
  else if 0xDC00 ≤ high ∧ high < 0xE000 then none
  else return (Char.ofNat high, rest)

/-- The character of an escape with one letter. -/
def simpleEscape? : Char → Option Char
  | '"' => some '"'
  | '\\' => some '\\'
  | '/' => some '/'
  | 'b' => some '\x08'
  | 'f' => some '\x0c'
  | 'n' => some '\n'
  | 'r' => some '\r'
  | 't' => some '\t'
  | _ => none

/-- Reads a text after its opening quote. Each turn reads at least one character. -/
def readText : Nat → List Char → List Char → Option (String × List Char)
  | 0, _, _ => none
  | fuel + 1, read, text =>
    match text with
    | [] => none
    | '"' :: rest => some (String.ofList read.reverse, rest)
    | '\\' :: 'u' :: rest =>
      match unicodeEscape? rest with
      | some (c, rest) => readText fuel (c :: read) rest
      | none => none
    | '\\' :: e :: rest =>
      match simpleEscape? e with
      | some c => readText fuel (c :: read) rest
      | none => none
    | c :: rest => if c.toNat < 32 then none else readText fuel (c :: read) rest

/-- Is `c` part of a number? -/
def isNumberChar (c : Char) : Bool :=
  ('0' ≤ c && c ≤ '9') || c == '-' || c == '+' || c == '.' || c == 'e' || c == 'E'

/-- Is the text a whole number without a needless zero in front? -/
def isWhole (digits : List Char) : Bool :=
  !digits.isEmpty && digits.all (fun c => '0' ≤ c && c ≤ '9') &&
    (digits.length == 1 || digits.head? != some '0')

/-- Is the text a fraction and an exponent, either of which may be missing? -/
def isFractionExponent (text : List Char) : Bool :=
  let digits (t : List Char) : Bool := !t.isEmpty && t.all (fun c => '0' ≤ c && c ≤ '9')
  let isExponent (t : List Char) : Bool := match t with
    | '+' :: rest => digits rest
    | '-' :: rest => digits rest
    | rest => digits rest
  let mantissa := text.takeWhile (fun c => c != 'e' && c != 'E')
  let fractionOk := match mantissa with
    | [] => true
    | '.' :: rest => digits rest
    | _ => false
  let exponentOk := match text.dropWhile (fun c => c != 'e' && c != 'E') with
    | [] => true
    | _ :: rest => isExponent rest
  fractionOk && exponentOk

/-- The number that a text writes. Minus zero is not an integer. -/
def number? (text : List Char) : Option Data :=
  let (negative, digits) := match text with
    | '-' :: rest => (true, rest)
    | rest => (false, rest)
  let whole := digits.takeWhile (fun c => '0' ≤ c && c ≤ '9')
  let after := digits.dropWhile (fun c => '0' ≤ c && c ≤ '9')
  if !isWhole whole || !isFractionExponent after then none
  else if after.isEmpty then
    match Text.decimalNumber? whole with
    | some n =>
      if negative then if n = 0 then some (.real "-0.0") else some (.int (-n))
      else some (.int n)
    | none => none
  else some (.real (String.ofList text))

/-- Reads a word with a fixed meaning. -/
def word? (word : String) (value : Data) (text : List Char) : Option (Data × List Char) :=
  if word.toList.isPrefixOf text then some (value, text.drop word.length) else none

mutual

/-- Reads a value. The fuel bounds the number of tokens. -/
def readValue : Nat → List Char → Option (Data × List Char)
  | 0, _ => none
  | fuel + 1, text =>
    match skipBlanks text with
    | [] => none
    | '"' :: rest =>
      match readText (rest.length + 1) [] rest with
      | some (value, rest) => some (.str value, rest)
      | none => none
    | '[' :: rest =>
      match skipBlanks rest with
      | ']' :: rest => some (.list [], rest)
      | rest => readItems fuel [] rest
    | '\x7b' :: rest =>
      match skipBlanks rest with
      | '\x7d' :: rest => some (.table [], rest)
      | rest => readEntries fuel [] rest
    | 't' :: rest => word? "true" (.bool true) ('t' :: rest)
    | 'f' :: rest => word? "false" (.bool false) ('f' :: rest)
    | 'n' :: rest => word? "null" .null ('n' :: rest)
    | text =>
      match number? (text.takeWhile isNumberChar) with
      | some value => some (value, text.dropWhile isNumberChar)
      | none => none

/-- Reads the items of a list, of which there is at least one. -/
def readItems : Nat → List Data → List Char → Option (Data × List Char)
  | 0, _, _ => none
  | fuel + 1, read, text =>
    match readValue fuel text with
    | none => none
    | some (item, rest) =>
      match skipBlanks rest with
      | ',' :: rest => readItems fuel (item :: read) rest
      | ']' :: rest => some (.list (item :: read).reverse, rest)
      | _ => none

/-- Reads the entries of a table, of which there is at least one. -/
def readEntries : Nat → List (String × Data) → List Char → Option (Data × List Char)
  | 0, _, _ => none
  | fuel + 1, read, text =>
    match skipBlanks text with
    | '"' :: rest =>
      match readText (rest.length + 1) [] rest with
      | none => none
      | some (key, rest) =>
        match skipBlanks rest with
        | ':' :: rest =>
          match readValue fuel rest with
          | none => none
          | some (value, rest) =>
            match skipBlanks rest with
            | ',' :: rest => readEntries fuel (Data.put key value read) rest
            | '\x7d' :: rest => some (.table (Data.put key value read), rest)
            | _ => none
        | _ => none
    | _ => none

end

/-- Reads a whole document. -/
def parse? (text : List Char) : Option Data :=
  match readValue (text.length + 1) text with
  | some (value, rest) => if (skipBlanks rest).isEmpty then some value else none
  | none => none

/-- In JSON only null says nothing, and a list has no items beyond the fields of a record. -/
def form : Data.Form := ⟨fun value => match value with | .null => true | _ => false, false⟩

end ProgramOutline.Json
