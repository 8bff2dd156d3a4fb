import ProgramOutline.Unicode.Derived
import ProgramOutline.Unicode.Script

/-!
# Breaks between characters, words and sentences

Three properties say where a text may be divided: into visible characters (`graphemeBreak?`), into
words (`wordBreak?`) and into sentences (`sentenceBreak?`). Each value of such a property is a class
of characters with a short and a long name, in lower case without separators. Characters of no
class have no name here.
-/

namespace ProgramOutline.Unicode

/-- The carriage return. -/
def carriageReturn : CharSet := .single '\r'

/-- The line feed. -/
def lineFeed : CharSet := .single '\n'

/-- The joiner of zero width. -/
def zeroWidthJoiner : CharSet := .single '\u200d'

/-! ## Visible characters -/

/-- Characters that extend the visible character before them. -/
def graphemeTail : CharSet := graphemeExtend.union emojiModifier

/-- Letters that come before the consonant they belong to, and prepended marks. -/
def graphemeHead : CharSet :=
  prependedMark.union
    (.ofText "D4E 111C2-111C3 113D1 1193F 11941 11A3A 11A84-11A89 11D46 11F02")

/-- Characters that stand apart on both sides. -/
def graphemeControl : CharSet :=
  ((unionAll [control, format, lineSeparator, paragraphSeparator,
    unassigned.inter defaultIgnorable]).diff graphemeHead).diff
      (unionAll [graphemeTail, carriageReturn, lineFeed, zeroWidthJoiner])

/-- Marks with width that go with the character before them. -/
def graphemeSpacing : CharSet :=
  ((spacingMark.union (.ofText "E33 EB3")).diff graphemeTail).diff
    (.ofText "102B-102C 1038 1062-1064 1067-106D 1083 1087-108C 108F 109A-109C 1A61 1A63-1A64
      AA7B AA7D 11720-11721")

/-- The first syllable of each row of Korean syllables, which has no final consonant. -/
def openSyllable : CharSet :=
  ⟨(List.range 399).map (fun i => (0xAC00 + 28 * i, 0xAC00 + 28 * i))⟩

/-- The Korean syllables. -/
def syllable : CharSet := ⟨[(0xAC00, 0xD7A3)]⟩

/-- The characters with the named value of the grapheme cluster break. -/
def graphemeBreak? (value : String) : Option CharSet :=
  match value with
  | "control" | "cn" => some graphemeControl
  | "cr" => some carriageReturn
  | "extend" | "ex" => some graphemeTail
  | "l" => some (.ofText "1100-115F A960-A97C")
  | "lf" => some lineFeed
  | "lv" => some openSyllable
  | "lvt" => some (syllable.diff openSyllable)
  | "prepend" | "pp" => some graphemeHead
  | "regionalindicator" | "ri" => some regionalIndicator
  | "spacingmark" | "sm" => some graphemeSpacing
  | "t" => some (.ofText "11A8-11FF D7CB-D7FB")
  | "v" => some (.ofText "1160-11A7 D7B0-D7C6 16D63 16D67-16D6A")
  | "zwj" => some zeroWidthJoiner
  | _ => none

/-! ## Words -/

/-- The characters of a script, given its short code. -/
def scriptOfCode (code : String) : CharSet :=
  match scripts.find? (fun entry => entry.1.head? == some code) with
  | some entry => .ofText entry.2
  | none => .empty

/-- Marks that extend a word. -/
def wordExtend : CharSet := unionAll [graphemeExtend, spacingMark, emojiModifier]

/-- Digits, decimal separators and marks that enclose digits. -/
def numeric : CharSet :=
  decimalNumber.union (.ofText "600-605 66B 6DD 890-891 8E2 19DA 110BD 110CD")

/-- Format characters that words and sentences look through. -/
def breakFormat : CharSet := (format.diff (numeric.union graphemeExtend)).diff zeroWidthJoiner

/-- Katakana and the signs used with it. -/
def katakana : CharSet := (scriptOfCode "kana").union (.ofText "3031-3035 309B-309C 30A0 30FC FF70")

/-- Hebrew letters. -/
def hebrewLetter : CharSet := (scriptOfCode "hebr").inter otherLetter

/-- Letters of scripts that write words without spaces between them. -/
def unspacedLetter : CharSet := .ofText
  "E01-E30 E32-E33 E40-E46 E81-E82 E84 E86-E8A E8C-EA3 EA5 EA7-EB0 EB2-EB3 EBD EC0-EC4 EC6 EDC-EDF
    1000-102A 103F 1050-1055 105A-105D 1061 1065-1066 106E-1070 1075-1081 108E 1780-17B3 17D7 17DC
    1950-196D 1970-1974 1980-19AB 19B0-19C9 1A20-1A54 1AA7 A9E0-A9E4 A9E6-A9EF A9FA-A9FE AA60-AA76
    AA7A AA7E-AAAF AAB1 AAB5-AAB6 AAB9-AABD AAC0 AAC2 AADB-AADD 11700-1171A 11740-11746"

/-- Letters of scripts that write spaces between words. -/
def spacedLetter : CharSet :=
  (alphabetic.union (.ofText "B8 2C2-2C5 2D2-2D7 2DE-2DF 2E5-2EB 2ED 2EF-2FF 55A-55C 55E 58A 5F3
    70F A708-A716 A720-A721 A789-A78A AB5B")).diff
      (unionAll [ideographic, katakana, unspacedLetter, scriptOfCode "hira", wordExtend,
        hebrewLetter])

/-- Punctuation inside of words. -/
def midLetter : CharSet := .ofText "3A B7 387 55F 5F4 2027 FE13 FE55 FF1A"

/-- Punctuation inside of words and numbers. -/
def midNumLet : CharSet := .ofText "2E 2018-2019 2024 FE52 FF07 FF0E"

/-- The characters with the named value of the word break. -/
def wordBreak? (value : String) : Option CharSet :=
  match value with
  | "aletter" | "le" => some spacedLetter
  | "cr" => some carriageReturn
  | "doublequote" | "dq" => some (.single '"')
  | "extend" => some wordExtend
  | "extendnumlet" | "ex" => some (connectorPunctuation.union (.single '\u202f'))
  | "format" | "fo" => some (breakFormat.diff (.ofText "70F 200B"))
  | "hebrewletter" | "hl" => some hebrewLetter
  | "katakana" | "ka" => some katakana
  | "lf" => some lineFeed
  | "midletter" | "ml" => some midLetter
  | "midnum" | "mn" =>
    some (.ofText "2C 3B 37E 589 60C-60D 66C 7F8 2044 FE10 FE14 FE50 FE54 FF0C FF1B")
  | "midnumlet" | "mb" => some midNumLet
  | "newline" | "nl" => some (.ofText "B-C 85 2028-2029")
  | "numeric" | "nu" => some numeric
  | "regionalindicator" | "ri" => some regionalIndicator
  | "singlequote" | "sq" => some (.single '\'')
  | "wsegspace" => some (.ofText "20 1680 2000-2006 2008-200A 205F 3000")
  | "zwj" => some zeroWidthJoiner
  | _ => none

/-! ## Sentences -/

/-- Marks that extend what a sentence is made of. -/
def sentenceExtend : CharSet := unionAll [graphemeExtend, spacingMark, zeroWidthJoiner]

/-- Full stops, which need not end a sentence. -/
def fullStop : CharSet := .ofText "2E 2024 FE52 FF0E"

/-- Lower case letters outside of the Georgian alphabet. -/
def sentenceLower : CharSet := (lowercase.diff graphemeExtend).diff (.ofText "10D0-10FA 10FD-10FF")

/-- Upper case and title case letters outside of the Georgian alphabet. -/
def sentenceUpper : CharSet :=
  (uppercase.union titlecaseLetter).diff (.ofText "1C90-1CBA 1CBD-1CBF")

/-- The characters with the named value of the sentence break. -/
def sentenceBreak? (value : String) : Option CharSet :=
  match value with
  | "aterm" | "at" => some fullStop
  | "close" | "cl" =>
    some (unionAll [openPunctuation, closePunctuation, .ofText "22 27 AB BB 2018-2019 201B-201D 201F
      2039-203A 275B-2760 2E00-2E0D 2E1C-2E1D 2E20-2E21 1F676-1F678"])
  | "cr" => some carriageReturn
  | "extend" | "ex" => some sentenceExtend
  | "format" | "fo" => some breakFormat
  | "lf" => some lineFeed
  | "lower" | "lo" => some sentenceLower
  | "numeric" | "nu" => some (numeric.union (.single '\u066c'))
  | "oletter" | "le" =>
    some ((alphabetic.union (.single '\u05f3')).diff
      (unionAll [sentenceLower, sentenceUpper, sentenceExtend]))
  | "scontinue" | "sc" =>
    some (.ofText "2C-2D 3A-3B 37E 55D 60C-60D 7F8 1802 1808 2013-2014 3001 FE10-FE11 FE13-FE14
      FE31-FE32 FE50-FE51 FE54-FE55 FE58 FE63 FF0C-FF0D FF1A-FF1B FF64")
  | "sep" | "se" => some (.ofText "85 2028-2029")
  | "sp" => some (blank.diff (.ofText "A D 85 2028-2029"))
  | "sterm" | "st" => some (sentenceTerminal.diff fullStop)
  | "upper" | "up" => some sentenceUpper
  | _ => none

end ProgramOutline.Unicode
