import ProgramOutline.Text.Pieces

/-!
# Quoted text in TOML

TOML writes a text in double quotes with escapes (basic) or in single quotes as it is (literal),
each on one line or, in triple quotes, on several. A line break right after opening triple quotes
does not count, and a line break in the text reads as a line feed.

`encode` writes a text in the first of these forms that can hold it: basic without escapes, literal,
basic in triple quotes without escapes, literal in triple quotes; failing all of them, basic with
escapes, in triple quotes if the text has line breaks.
-/

namespace ProgramOutline.Toml

/-! ## Reading -/

/-- May `c` stand unescaped in a text on one line? -/
def isPlain (c : Char) : Bool := c == '\t' || (32 ≤ c.toNat && c.toNat != 127)

/-- The character with the code that the digits write. -/
def codeChar? (digits : List Char) : Option Char :=
  (Text.hexNumber? digits).bind (fun n => if n.isValidChar then some (Char.ofNat n) else none)

/-- The character of an escape with one letter. -/
def simpleEscape? : Char → Option Char
  | 'b' => some '\x08'
  | 't' => some '\t'
  | 'n' => some '\n'
  | 'f' => some '\x0c'
  | 'r' => some '\r'
  | '"' => some '"'
  | '\\' => some '\\'
  | _ => none

/-- Puts a character in front of a text that has been read. -/
def before (c : Option Char) (read : Option (List Char × List Char)) :
    Option (List Char × List Char) :=
  match c, read with
  | some c, some (text, rest) => some (c :: text, rest)
  | _, _ => none

/-- Reads a basic text after its opening quote. -/
def readBasic : List Char → Option (List Char × List Char)
  | [] => none
  | '"' :: rest => some ([], rest)
  | '\\' :: 'u' :: a :: b :: c :: d :: rest => before (codeChar? [a, b, c, d]) (readBasic rest)
  | '\\' :: 'U' :: a :: b :: c :: d :: e :: f :: g :: h :: rest =>
    before (codeChar? [a, b, c, d, e, f, g, h]) (readBasic rest)
  | '\\' :: c :: rest => before (simpleEscape? c) (readBasic rest)
  | c :: rest => if isPlain c && c != '\\' then before (some c) (readBasic rest) else none

/-- Reads a literal text after its opening quote. -/
def readLiteral : List Char → Option (List Char × List Char)
  | [] => none
  | '\'' :: rest => some ([], rest)
  | c :: rest => if isPlain c then before (some c) (readLiteral rest) else none

/-- Up to two quotes before the closing ones belong to the text. -/
def closingQuotes (quote : Char) : List Char → List Char × List Char
  | a :: b :: rest =>
    if a = quote then if b = quote then ([quote, quote], rest) else ([quote], b :: rest)
    else ([], a :: b :: rest)
  | [a] => if a = quote then ([quote], []) else ([], [a])
  | [] => ([], [])

/-- Is the text blank up to a line break? -/
def endsLine (text : List Char) : Bool :=
  match text.dropWhile (fun c => c == ' ' || c == '\t') with
  | '\n' :: _ => true
  | '\r' :: '\n' :: _ => true
  | _ => false

/-- Reads a basic text in triple quotes after the opening ones. With `skipping`, blanks and line
    breaks are passed over; a backslash at the end of a line starts this. -/
def readBasicLines (skipping : Bool) : List Char → Option (List Char × List Char)
  | [] => none
  | '"' :: '"' :: '"' :: rest => some (closingQuotes '"' rest)
  | '\r' :: '\n' :: rest =>
    if skipping then readBasicLines true rest else before (some '\n') (readBasicLines false rest)
  | '\\' :: 'u' :: a :: b :: c :: d :: rest =>
    before (codeChar? [a, b, c, d]) (readBasicLines false rest)
  | '\\' :: 'U' :: a :: b :: c :: d :: e :: f :: g :: h :: rest =>
    before (codeChar? [a, b, c, d, e, f, g, h]) (readBasicLines false rest)
  | '\\' :: c :: rest =>
    if endsLine (c :: rest) then readBasicLines true (c :: rest)
    else before (simpleEscape? c) (readBasicLines false rest)
  | c :: rest =>
    if skipping && (c == ' ' || c == '\t' || c == '\n') then readBasicLines true rest
    else if (isPlain c && c != '\\') || c == '\n' then before (some c) (readBasicLines false rest)
    else none

/-- Reads a literal text in triple quotes after the opening ones. -/
def readLiteralLines : List Char → Option (List Char × List Char)
  | [] => none
  | '\'' :: '\'' :: '\'' :: rest => some (closingQuotes '\'' rest)
  | '\r' :: '\n' :: rest => before (some '\n') (readLiteralLines rest)
  | c :: rest =>
    if isPlain c || c == '\n' then before (some c) (readLiteralLines rest) else none

/-- The text after a line break at its start. -/
def dropLineBreak : List Char → List Char
  | '\n' :: rest => rest
  | '\r' :: '\n' :: rest => rest
  | text => text

/-- Reads a quoted text on one line. -/
def readLine? : List Char → Option (List Char × List Char)
  | '"' :: rest => readBasic rest
  | '\'' :: rest => readLiteral rest
  | _ => none

/-- Reads a quoted text in any form. -/
def readQuoted? : List Char → Option (List Char × List Char)
  | '"' :: '"' :: '"' :: rest => readBasicLines false (dropLineBreak rest)
  | '\'' :: '\'' :: '\'' :: rest => readLiteralLines (dropLineBreak rest)
  | text => readLine? text

/-! ## Writing -/

/-- Is `c` a control character that cannot be written as it is? -/
def isControl (c : Char) : Bool := (c.toNat < 32 && c != '\t' && c != '\n') || c.toNat == 127

/-- The longest run of a character in a text; `current` of them stand before it. -/
def longestRun (quote : Char) (current : Nat) : List Char → Nat
  | [] => current
  | c :: rest =>
    if c = quote then longestRun quote (current + 1) rest
    else max current (longestRun quote 0 rest)

/-- A character that cannot be written as it is. -/
def escapeChar (c : Char) : List Char :=
  match c with
  | '\x08' => ['\\', 'b']
  | '\t' => ['\\', 't']
  | '\n' => ['\\', 'n']
  | '\x0c' => ['\\', 'f']
  | '\r' => ['\\', 'r']
  | '"' => ['\\', '"']
  | '\\' => ['\\', '\\']
  | c => ['\\', 'u'] ++ Text.hexDigits 'A' 4 c.toNat

/-- Is `c` written with an escape in a basic text? -/
def needsEscape (c : Char) : Bool := c.toNat < 32 || c == '"' || c == '\\' || c.toNat == 127

/-- The inside of a basic text on one line. -/
def escapeLine (text : List Char) : List Char :=
  text.flatMap (fun c => if needsEscape c then escapeChar c else [c])

/-- The inside of a basic text in triple quotes. Line breaks stay, and so do quotes unless they are
    the third in a row since the last escape; `quotes` have been written in a row. -/
def escapeLines (quotes : Nat) : List Char → List Char
  | [] => []
  | c :: rest =>
    if c = '"' then
      if quotes = 2 then '\\' :: '"' :: escapeLines 0 rest else '"' :: escapeLines (quotes + 1) rest
    else if c = '\n' then '\n' :: escapeLines 0 rest
    else if needsEscape c then escapeChar c ++ escapeLines 0 rest
    else c :: escapeLines 0 rest

/-- The forms of quoted text. -/
inductive Form where
  | basic
  | literal
  | basicLines
  | literalLines
  deriving DecidableEq

/-- The first form that can hold a text. -/
def formOf (text : List Char) : Form :=
  let plain := !text.any isControl
  let lines := text.contains '\n'
  if plain && !lines && !text.contains '\\' && !text.contains '"' then .basic
  else if plain && !lines && !text.contains '\'' then .literal
  else if plain && !text.contains '\\' && longestRun '"' 0 text < 3 then .basicLines
  else if plain && longestRun '\'' 0 text < 3 then .literalLines
  else if lines then .basicLines
  else .basic

/-- A text in quotes. -/
def encode (text : List Char) : List Char :=
  let lead := if text.contains '\n' then ['\n'] else []
  match formOf text with
  | .basic => '"' :: (escapeLine text ++ ['"'])
  | .literal => '\'' :: (text ++ ['\''])
  | .basicLines => ['"', '"', '"'] ++ lead ++ escapeLines 0 text ++ ['"', '"', '"']
  | .literalLines => ['\'', '\'', '\''] ++ lead ++ text ++ ['\'', '\'', '\'']

end ProgramOutline.Toml
