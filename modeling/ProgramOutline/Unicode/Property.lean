import ProgramOutline.Unicode.Age
import ProgramOutline.Unicode.Break
import ProgramOutline.Unicode.NamedTrait
import ProgramOutline.Unicode.SharedScript

/-!
# Properties by name

A property is asked for by its own name, by the name of a general category or by that of a script;
or as a pair of a property and its value, such as `gc=Lu`, `script=Greek` or `age=6.0`.
-/

namespace ProgramOutline.Unicode

/-- A property name in lower case, without a leading `is` and without blanks, hyphens, underscores
    and characters beyond ASCII. The name `isc` keeps its letters. -/
def normalName (name : List Char) : String :=
  let (stripped, rest) := match name with
    | i :: s :: rest =>
      if (i = 'i' || i = 'I') && (s = 's' || s = 'S') then (true, rest) else (false, name)
    | _ => (false, name)
  let counts (c : Char) : Bool := c ≠ ' ' && c ≠ '_' && c ≠ '-' && c.toNat < 128
  let kept := (rest.filter counts).map Char.toLower
  if stripped && kept = ['c'] then "isc" else String.ofList kept

/-- The characters with a trait of the given normal name. -/
def trait? (name : String) : Option CharSet :=
  match name with
  | "alphabetic" | "alpha" => some alphabetic
  | "asciihexdigit" | "ahex" => some ⟨[(0x30, 0x39), (0x41, 0x46), (0x61, 0x66)]⟩
  | "cased" => some (unionAll [lowercase, uppercase, titlecaseLetter])
  | "caseignorable" | "ci" =>
    some (unionAll [nonspacingMark, enclosingMark, format, modifierLetter, modifierSymbol,
      midLetter, midNumLet, .single '\''])
  | "defaultignorablecodepoint" | "di" => some defaultIgnorable
  | "emojimodifier" | "emod" => some emojiModifier
  | "graphemebase" | "grbase" => some graphemeBase
  | "graphemeextend" | "grext" => some graphemeExtend
  | "idcompatmathcontinue" => some mathPart
  | "idcompatmathstart" => some mathStart
  | "idcontinue" | "idc" => some identifierPart
  | "idstart" | "ids" => some identifierStart
  | "ideographic" | "ideo" => some ideographic
  | "joincontrol" | "joinc" => some joinControl
  | "lowercase" | "lower" => some lowercase
  | "math" => some (unionAll [mathSymbol, otherMath])
  | "otheralphabetic" | "oalpha" => some otherAlphabetic
  | "otherdefaultignorablecodepoint" | "odi" => some otherIgnorable
  | "othergraphemeextend" | "ogrext" => some otherGraphemeExtend
  | "otheridcontinue" | "oidc" => some otherIdentifierPart
  | "otheridstart" | "oids" => some otherIdentifierStart
  | "otherlowercase" | "olower" => some otherLowercase
  | "othermath" | "omath" => some otherMath
  | "otheruppercase" | "oupper" => some otherUppercase
  | "prependedconcatenationmark" | "pcm" => some prependedMark
  | "regionalindicator" | "ri" => some regionalIndicator
  | "sentenceterminal" | "sterm" => some sentenceTerminal
  | "uppercase" | "upper" => some uppercase
  | "variationselector" | "vs" => some variationSelector
  | "whitespace" | "wspace" | "space" => some blank
  | "xidcontinue" | "xidc" => some (identifierPart.diff incompatiblePart)
  | "xidstart" | "xids" => some (identifierStart.diff incompatibleStart)
  | _ => (namedTraits.find? (fun entry => entry.1.contains name)).map (fun entry => .ofText entry.2)

/-- The characters of the script with the given normal name. -/
def script? (name : String) : Option CharSet :=
  (scripts.find? (fun entry => entry.1.contains name)).map (fun entry => .ofText entry.2)

/-- The characters used with the script of the given normal name. -/
def usedWithScript? (name : String) : Option CharSet := do
  let (names, own) ← scripts.find? (fun entry => entry.1.contains name)
  let code ← names.head?
  let shared := unionAll (sharedScripts.map (fun entry => .ofText entry.2))
  let here := sharedScripts.filter (fun entry => entry.1.contains code)
  return unionAll ((CharSet.ofText own).diff shared :: here.map (fun entry => .ofText entry.2))

/-- The names of an edition: its number, and its digits after a `v`. -/
def editionNames (edition : String) : List String :=
  [edition, "v" ++ String.ofList (edition.toList.filter (· ≠ '.'))]

/-- The characters assigned up to the edition with the given normal name. -/
def age? (name : String) : Option CharSet :=
  let (before, rest) := ages.span (fun entry => !(editionNames entry.1).contains name)
  match rest with
  | [] => none
  | last :: _ => some (unionAll ((before ++ [last]).map (fun entry => .ofText entry.2)))

/-- The property with the given name alone. -/
def property? (name : List Char) : Option CharSet :=
  let key := normalName name
  (trait? key).or ((category? key).or (script? key))

/-- The characters for which a property has a certain value. -/
def propertyValue? (name value : List Char) : Option CharSet :=
  let value := normalName value
  match normalName name with
  | "gc" | "generalcategory" => category? value
  | "sc" | "script" => script? value
  | "scx" | "scriptextensions" => usedWithScript? value
  | "age" => age? value
  | "gcb" | "graphemeclusterbreak" => graphemeBreak? value
  | "wb" | "wordbreak" => wordBreak? value
  | "sb" | "sentencebreak" => sentenceBreak? value
  | _ => none

end ProgramOutline.Unicode
