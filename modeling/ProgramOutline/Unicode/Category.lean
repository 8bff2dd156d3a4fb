import ProgramOutline.Unicode.Letter
import ProgramOutline.Unicode.Mark
import ProgramOutline.Unicode.Sign

/-!
# General categories

The groups of general categories and the category names. Names are compared in lower case without
blanks, hyphens and underscores, as `normalName` gives them.
-/

namespace ProgramOutline.Unicode

/-- The union of several sets. -/
def unionAll (sets : List CharSet) : CharSet := sets.foldl .union .empty

/-- Letters with upper, lower or title case. -/
def casedLetter : CharSet := unionAll [uppercaseLetter, lowercaseLetter, titlecaseLetter]

/-- Letters. -/
def letter : CharSet := unionAll [casedLetter, modifierLetter, otherLetter]

/-- Marks. -/
def mark : CharSet := unionAll [nonspacingMark, spacingMark, enclosingMark]

/-- Numbers. -/
def number : CharSet := unionAll [decimalNumber, letterNumber, otherNumber]

/-- Punctuation. -/
def punctuation : CharSet :=
  unionAll [connectorPunctuation, dashPunctuation, openPunctuation, closePunctuation,
    initialPunctuation, finalPunctuation, otherPunctuation]

/-- Symbols. -/
def symbol : CharSet := unionAll [mathSymbol, currencySymbol, modifierSymbol, otherSymbol]

/-- Separators. -/
def separator : CharSet := unionAll [spaceSeparator, lineSeparator, paragraphSeparator]

/-- Assigned characters. -/
def assigned : CharSet :=
  unionAll [letter, mark, number, punctuation, symbol, separator, control, format, privateUse]

/-- Characters without an assignment. -/
def unassigned : CharSet := assigned.complement

/-- Control, format, private use and unassigned characters. -/
def otherCategory : CharSet := unionAll [control, format, privateUse, unassigned]

/-- The general category with the given normal name, short or long. Surrogates are no characters, so
    their category has no name. -/
def category? (name : String) : Option CharSet :=
  match name with
  | "lu" | "uppercaseletter" => some uppercaseLetter
  | "ll" | "lowercaseletter" => some lowercaseLetter
  | "lt" | "titlecaseletter" => some titlecaseLetter
  | "lc" | "casedletter" => some casedLetter
  | "lm" | "modifierletter" => some modifierLetter
  | "lo" | "otherletter" => some otherLetter
  | "l" | "letter" => some letter
  | "mn" | "nonspacingmark" => some nonspacingMark
  | "mc" | "spacingmark" => some spacingMark
  | "me" | "enclosingmark" => some enclosingMark
  | "m" | "mark" | "combiningmark" => some mark
  | "nd" | "decimalnumber" | "digit" => some decimalNumber
  | "nl" | "letternumber" => some letterNumber
  | "no" | "othernumber" => some otherNumber
  | "n" | "number" => some number
  | "pc" | "connectorpunctuation" => some connectorPunctuation
  | "pd" | "dashpunctuation" => some dashPunctuation
  | "ps" | "openpunctuation" => some openPunctuation
  | "pe" | "closepunctuation" => some closePunctuation
  | "pi" | "initialpunctuation" => some initialPunctuation
  | "pf" | "finalpunctuation" => some finalPunctuation
  | "po" | "otherpunctuation" => some otherPunctuation
  | "p" | "punctuation" | "punct" => some punctuation
  | "sm" | "mathsymbol" => some mathSymbol
  | "sc" | "currencysymbol" => some currencySymbol
  | "sk" | "modifiersymbol" => some modifierSymbol
  | "so" | "othersymbol" => some otherSymbol
  | "s" | "symbol" => some symbol
  | "zs" | "spaceseparator" => some spaceSeparator
  | "zl" | "lineseparator" => some lineSeparator
  | "zp" | "paragraphseparator" => some paragraphSeparator
  | "z" | "separator" => some separator
  | "cc" | "control" | "cntrl" => some control
  | "cf" | "format" => some format
  | "co" | "privateuse" => some privateUse
  | "cn" | "unassigned" => some unassigned
  | "c" | "other" => some otherCategory
  | "any" => some .all
  | "assigned" => some assigned
  | "ascii" => some ⟨[(0, 127)]⟩
  | _ => none

end ProgramOutline.Unicode
