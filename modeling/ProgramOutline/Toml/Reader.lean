import ProgramOutline.Toml.Scalar
import ProgramOutline.Toml.Table
import ProgramOutline.Toml.Text

/-!
# Reading TOML

`parse?` reads a TOML document into a table. A byte order mark at its start is passed over. Values
are nested less than `maxNesting` levels deep, and a key has fewer parts than that.
-/

namespace ProgramOutline.Toml

/-- The number of levels that values may not reach. -/
def maxNesting : Nat := 80

/-- The text after blanks on the line. -/
def skipBlanks (text : List Char) : List Char := text.dropWhile (fun c => c == ' ' || c == '\t')

/-- Is `c` allowed in a comment? -/
def isCommentChar (c : Char) : Bool := c == '\t' || (32 ≤ c.toNat && c.toNat != 127)

/-- The text from the end of the line on, after blanks and a comment. -/
def skipComment (text : List Char) : List Char :=
  match skipBlanks text with
  | '#' :: rest => rest.dropWhile isCommentChar
  | text => text

/-- Reads the end of a line: blanks, a comment, and a line break or the end of the text. -/
def endLine? (text : List Char) : Option (List Char) :=
  match skipComment text with
  | [] => some []
  | '\n' :: rest => some rest
  | '\r' :: '\n' :: rest => some rest
  | _ => none

/-- The text after blanks, comments and line breaks. Each turn passes a line break. -/
def skipLines : Nat → List Char → List Char
  | 0, text => text
  | fuel + 1, text =>
    match skipComment text with
    | '\n' :: rest => skipLines fuel rest
    | '\r' :: '\n' :: rest => skipLines fuel rest
    | text => text

/-! ## Keys -/

/-- May `c` stand in a key without quotes? -/
def isBareKeyChar (c : Char) : Bool := c.isAlphanum || c == '_' || c == '-'

/-- Reads one part of a key. -/
def readKeyPart? (text : List Char) : Option (String × List Char) :=
  match text with
  | '"' :: _ => (readLine? text).map (fun (key, rest) => (String.ofList key, rest))
  | '\'' :: _ => (readLine? text).map (fun (key, rest) => (String.ofList key, rest))
  | text =>
    let key := text.takeWhile isBareKeyChar
    if key.isEmpty then none else some (String.ofList key, text.dropWhile isBareKeyChar)

/-- Reads the parts of a key between dots, with blanks around them: the parts before the last one,
    last first, the last one and the rest. -/
def readKeyParts : Nat → List String → List Char → Option (List String × String × List Char)
  | 0, _, _ => none
  | fuel + 1, path, text =>
    match readKeyPart? (skipBlanks text) with
    | none => none
    | some (key, rest) =>
      match skipBlanks rest with
      | '.' :: rest => readKeyParts fuel (key :: path) rest
      | rest => some (path, key, rest)

/-- Reads a key: the path to a table, and the last part. -/
def readKey? (text : List Char) : Option (List String × String × List Char) :=
  (readKeyParts (maxNesting - 1) [] text).map (fun (path, key, rest) => (path.reverse, key, rest))

/-! ## Values -/

mutual

/-- Reads a value below `depth` levels of nesting. The fuel bounds the number of tokens. -/
def readValue : Nat → Nat → List Char → Option (Data × List Char)
  | 0, _, _ => none
  | fuel + 1, depth, text =>
    match text with
    | '"' :: _ => (readQuoted? text).map (fun (value, rest) => (.str (String.ofList value), rest))
    | '\'' :: _ => (readQuoted? text).map (fun (value, rest) => (.str (String.ofList value), rest))
    | '[' :: rest =>
      if depth + 1 < maxNesting then
        match skipLines (rest.length + 1) rest with
        | ']' :: rest => some (.list [], rest)
        | rest => readItems fuel (depth + 1) [] rest
      else none
    | '\x7b' :: rest =>
      if depth + 1 < maxNesting then
        match skipBlanks rest with
        | '\x7d' :: rest => some (.table [], rest)
        | rest => readPairs fuel (depth + 1) [] rest
      else none
    | text => readScalar? text

/-- Reads the items of an array. A comma may follow the last one. -/
def readItems : Nat → Nat → List Data → List Char → Option (Data × List Char)
  | 0, _, _, _ => none
  | fuel + 1, depth, read, text =>
    match readValue fuel depth text with
    | none => none
    | some (item, rest) =>
      match skipLines (rest.length + 1) rest with
      | ']' :: rest => some (.list (item :: read).reverse, rest)
      | ',' :: rest =>
        match skipLines (rest.length + 1) rest with
        | ']' :: rest => some (.list (item :: read).reverse, rest)
        | rest => readItems fuel depth (item :: read) rest
      | _ => none

/-- Reads the entries of an inline table, which stands on one line. -/
def readPairs : Nat → Nat → Entries → List Char → Option (Data × List Char)
  | 0, _, _, _ => none
  | fuel + 1, depth, read, text =>
    match readKey? text with
    | some (path, key, '=' :: rest) =>
      match readValue fuel depth (skipBlanks rest) with
      | none => none
      | some (value, rest) =>
        match addValue path key value read with
        | none => none
        | some read =>
          match skipBlanks rest with
          | ',' :: rest => readPairs fuel depth read rest
          | '\x7d' :: rest => some (.table (entriesData read), rest)
          | _ => none
    | _ => none

end

/-! ## Documents -/

/-- A document being read: its entries, and the path of the table opened last. -/
structure Document where
  root : Entries := []
  opened : List String := []

/-- Reads a header after its brackets, up to the closing bracket. -/
def header? (text : List Char) : Option (List String × String × List Char) :=
  match readKey? text with
  | some (path, key, ']' :: rest) => some (path, key, rest)
  | _ => none

/-- Reads a line that is neither blank nor a comment, without its end. -/
def readLineOf (doc : Document) (text : List Char) : Option (Document × List Char) :=
  match text with
  | '[' :: '[' :: rest =>
    match header? rest with
    | some (path, key, ']' :: rest) =>
      (openElement path key doc.root).map (fun root => (⟨root, path ++ [key]⟩, rest))
    | _ => none
  | '[' :: rest =>
    match header? rest with
    | some (path, key, rest) =>
      (openTable path key doc.root).map (fun root => (⟨root, path ++ [key]⟩, rest))
    | none => none
  | text =>
    match readKey? text with
    | some (path, key, '=' :: rest) =>
      match readValue (text.length + 1) 0 (skipBlanks rest) with
      | some (value, rest) =>
        (addToOpen doc.opened path key value doc.root).map (fun root => (⟨root, doc.opened⟩, rest))
      | none => none
    | _ => none

/-- Reads lines to the end of the text. Each turn reads a line. -/
def readLines : Nat → Document → List Char → Option Document
  | 0, _, _ => none
  | fuel + 1, doc, text =>
    match skipLines (text.length + 1) text with
    | [] => some doc
    | text =>
      match readLineOf doc text with
      | some (doc, rest) =>
        match endLine? rest with
        | some rest => readLines fuel doc rest
        | none => none
      | none => none

/-- The text after a byte order mark. -/
def dropMark : List Char → List Char
  | '\ufeff' :: rest => rest
  | text => text

/-- Reads a document. -/
def parse? (text : List Char) : Option Data :=
  (readLines (text.length + 1) {} (dropMark text)).map (fun doc => .table (entriesData doc.root))

/-- In TOML an empty table or list says nothing, and a list may go on after the fields of a
    record. -/
def form : Data.Form :=
  ⟨fun value => match value with | .table [] => true | .list [] => true | _ => false, true⟩

end ProgramOutline.Toml
