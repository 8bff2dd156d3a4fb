import ProgramOutline.Unicode.Category
import ProgramOutline.Unicode.Trait
import ProgramOutline.Unicode.Word

/-!
# Traits made from others

Traits that the standard defines by general categories and a table of further characters.
-/

namespace ProgramOutline.Unicode

/-- Letters, letter numbers and what else is used like a letter. -/
def alphabetic : CharSet := unionAll [letter, letterNumber, otherAlphabetic]

/-- Lower case characters. -/
def lowercase : CharSet := unionAll [lowercaseLetter, otherLowercase]

/-- Upper case characters. -/
def uppercase : CharSet := unionAll [uppercaseLetter, otherUppercase]

/-- Characters that start an identifier. -/
def identifierStart : CharSet :=
  (unionAll [letter, letterNumber, otherIdentifierStart]).diff notIdentifierStart

/-- Characters that may follow in an identifier. -/
def identifierPart : CharSet :=
  unionAll [identifierStart, nonspacingMark, spacingMark, decimalNumber, connectorPunctuation,
    otherIdentifierPart]

/-- Mathematical signs that may follow in an identifier. -/
def mathPart : CharSet :=
  unionAll [mathStart, .ofText "B2-B3 B9 2070 2074-207E 2080-208E"]

/-- Characters that are shown as part of the one before them. -/
def graphemeExtend : CharSet := unionAll [nonspacingMark, enclosingMark, otherGraphemeExtend]

/-- Characters that are shown by themselves. -/
def graphemeBase : CharSet :=
  CharSet.all.diff (unionAll [control, format, privateUse, unassigned, lineSeparator,
    paragraphSeparator, graphemeExtend])

/-- Characters that may be ignored in display. -/
def defaultIgnorable : CharSet :=
  ((unionAll [otherIgnorable, format, variationSelector]).diff prependedMark).diff
    (.ofText "FFF9-FFFB 13430-13440")

end ProgramOutline.Unicode
