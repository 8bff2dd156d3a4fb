import ProgramOutline.Unicode.Derived
import ProgramOutline.Unicode.Recent

/-!
# Quoted text for messages

A text in double quotes in which quotes, backslashes and characters that cannot be seen are
escaped: tab, line feed, carriage return and null by a letter, others by their code in braces.
-/

namespace ProgramOutline.Text

/-- Letters that only hold a place and are shown as nothing. -/
def fillers : CharSet := .ofText "115F-1160 3164 FFA0"

/-- Can a character be shown as it is? -/
def isVisible (c : Char) : Bool :=
  c == ' ' || Unicode.recentVisible.contains c ||
    !(Unicode.otherCategory.contains c || Unicode.separator.contains c ||
      Unicode.graphemeExtend.contains c || fillers.contains c)

/-- A number in hexadecimal digits without leading zeros. -/
def hexCode (n : Nat) : List Char := Nat.toDigits 16 n

/-- A character inside of the quotes. -/
def quotedChar (c : Char) : List Char :=
  match c with
  | '"' => ['\\', '"']
  | '\\' => ['\\', '\\']
  | '\t' => ['\\', 't']
  | '\n' => ['\\', 'n']
  | '\r' => ['\\', 'r']
  | '\x00' => ['\\', '0']
  | c =>
    if (32 ≤ c.toNat && c.toNat < 127) || isVisible c then [c]
    else ['\\', 'u', '\x7b'] ++ hexCode c.toNat ++ ['\x7d']

/-- A text in quotes. -/
def quoted (text : String) : String :=
  String.ofList ('"' :: (text.toList.flatMap quotedChar ++ ['"']))

end ProgramOutline.Text
