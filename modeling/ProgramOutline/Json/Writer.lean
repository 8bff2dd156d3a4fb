import ProgramOutline.Data.Basic
import ProgramOutline.Text.Pieces

/-!
# Writing JSON

`compact` writes a value without blanks. `pretty` writes each item and entry on a line of its own,
indented by two spaces for each level; empty lists and tables stay on one line. Text escapes the
quote, the backslash and the control characters below 32, and nothing else.
-/

namespace ProgramOutline.Json

/-- A character inside of a text. -/
def escapeChar (c : Char) : List Char :=
  match c with
  | '"' => ['\\', '"']
  | '\\' => ['\\', '\\']
  | '\x08' => ['\\', 'b']
  | '\x0c' => ['\\', 'f']
  | '\n' => ['\\', 'n']
  | '\r' => ['\\', 'r']
  | '\t' => ['\\', 't']
  | c => if c.toNat < 32 then ['\\', 'u'] ++ Text.hexDigits 'a' 4 c.toNat else [c]

/-- A text in quotes. -/
def quote (text : String) : List Char := '"' :: (text.toList.flatMap escapeChar ++ ['"'])

/-- An integer in decimal notation. -/
def integer : Int → List Char
  | .ofNat n => Text.decimal n
  | .negSucc n => '-' :: Text.decimal (n + 1)

/-- A value that is no list and no table. -/
def scalar : Data → List Char
  | .null => "null".toList
  | .bool true => "true".toList
  | .bool false => "false".toList
  | .int value => integer value
  | .real text => text.toList
  | .stamp text => quote text
  | .str value => quote value
  | .list _ => []
  | .table _ => []

mutual

/-- A value without blanks. -/
def compact : Data → List Char
  | .list items => '[' :: compactItems items
  | .table entries => '\x7b' :: compactEntries entries
  | value => scalar value

/-- The items of a list and its closing bracket. -/
def compactItems : List Data → List Char
  | [] => [']']
  | [item] => compact item ++ [']']
  | item :: rest => compact item ++ ',' :: compactItems rest

/-- The entries of a table and its closing brace. -/
def compactEntries : List (String × Data) → List Char
  | [] => ['\x7d']
  | [(key, value)] => quote key ++ ':' :: compact value ++ ['\x7d']
  | (key, value) :: rest => quote key ++ ':' :: compact value ++ ',' :: compactEntries rest

end

/-- A new line at the given level. -/
def newLine (level : Nat) : List Char := '\n' :: List.replicate (2 * level) ' '

mutual

/-- A value on several lines, starting at the given level. -/
def pretty (level : Nat) : Data → List Char
  | .list [] => "[]".toList
  | .list items => '[' :: prettyItems level items
  | .table [] => ['\x7b', '\x7d']
  | .table entries => '\x7b' :: prettyEntries level entries
  | value => scalar value

/-- The items of a list, each on a line, and the closing bracket. -/
def prettyItems (level : Nat) : List Data → List Char
  | [] => newLine level ++ [']']
  | [item] => newLine (level + 1) ++ pretty (level + 1) item ++ newLine level ++ [']']
  | item :: rest => newLine (level + 1) ++ pretty (level + 1) item ++ ',' :: prettyItems level rest

/-- The entries of a table, each on a line, and the closing brace. -/
def prettyEntries (level : Nat) : List (String × Data) → List Char
  | [] => newLine level ++ ['\x7d']
  | [(key, value)] =>
    newLine (level + 1) ++ quote key ++ ':' :: ' ' :: pretty (level + 1) value ++
      newLine level ++ ['\x7d']
  | (key, value) :: rest =>
    newLine (level + 1) ++ quote key ++ ':' :: ' ' :: pretty (level + 1) value ++
      ',' :: prettyEntries level rest

end

end ProgramOutline.Json
