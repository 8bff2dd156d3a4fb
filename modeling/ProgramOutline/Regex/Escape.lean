import ProgramOutline.Regex.Expr
import ProgramOutline.Regex.Flags
import ProgramOutline.Unicode.CaseFold
import ProgramOutline.Unicode.Property

/-!
# Escapes

What a backslash introduces: a literal character, a class of characters or a condition on the
position. Without the `u` flag classes hold ASCII characters only, so a negated class, which would
hold bytes that are no characters, is refused there.
-/

namespace ProgramOutline.Regex

/-- The smallest parts of a pattern. -/
inductive Atom where
  /-- A literal character; `byte` if it is written as a byte with two digits. -/
  | char (c : Char) (byte : Bool)
  /-- A class of characters. -/
  | chars (set : CharSet)
  /-- A condition. -/
  | look (condition : Look)

namespace Flags

/-- The set with other cases added where the flags ask for them. -/
def closeCase (flags : Flags) (set : CharSet) : CharSet :=
  if flags.ignoreCase then
    if flags.unicode then set.caseClosure else set.asciiCaseClosure
  else set

/-- The set or, if `negated`, the other characters. -/
def negate? (flags : Flags) (negated : Bool) (set : CharSet) : Option CharSet :=
  if negated then
    if flags.unicode then some set.complement else none
  else some set

/-- The classes `\d`, `\s`, `\w` and their negations. -/
def shorthand? (flags : Flags) (letter : Char) : Option CharSet :=
  let set? : Option CharSet := match letter.toLower with
    | 'd' => some (if flags.unicode then Unicode.decimalNumber else ⟨[(0x30, 0x39)]⟩)
    | 's' => some (if flags.unicode then Unicode.blank else ⟨[(9, 13), (32, 32)]⟩)
    | 'w' => some (if flags.unicode then Unicode.word else Unicode.asciiWord)
    | _ => none
  set?.bind (flags.negate? (letter ≠ letter.toLower))

/-- The two parts of a text around the first occurrence of a separator. -/
def cutAt? (separator : List Char) : List Char → Option (List Char × List Char)
  | [] => none
  | c :: rest =>
    if separator.isPrefixOf (c :: rest) then some ([], (c :: rest).drop separator.length)
    else (cutAt? separator rest).map (fun (before, after) => (c :: before, after))

/-- The class that `\p{...}` names, or with `negated` its complement. -/
def property? (flags : Flags) (negated : Bool) (name : List Char) : Option CharSet :=
  if !flags.unicode then none
  else
    let (differs, found) := match cutAt? ['!', '='] name with
      | some (key, value) => (true, Unicode.propertyValue? key value)
      | none => match (cutAt? [':'] name).or (cutAt? ['='] name) with
        | some (key, value) => (false, Unicode.propertyValue? key value)
        | none => (false, Unicode.property? name)
    found.bind (fun set => flags.negate? (negated != differs) (flags.closeCase set))

/-- A word condition under the flags. -/
def wordLook (flags : Flags) (edge : WordEdge) : Atom := .look (.word edge (!flags.unicode))

end Flags

/-- The character with the given code, if there is one. -/
def charOfCode? (n : Nat) : Option Char := if n.isValidChar then some (Char.ofNat n) else none

/-- Reads a fixed number of hexadecimal digits. -/
def fixedHex (flags : Flags) : Nat → Nat → List Char → Option (Nat × List Char)
  | 0, value, text => some (value, text)
  | _ + 1, _, [] => none
  | count + 1, value, c :: rest =>
    match Text.hexDigit? c with
    | some digit => fixedHex flags count (16 * value + digit) (flags.skip rest)
    | none => none

/-- Reads a character code of `width` digits, or in braces. -/
def codeEscape (flags : Flags) (width : Nat) (text : List Char) : Option (Atom × List Char) :=
  match text with
  | '\x7b' :: rest => do
    let (inner, after) ← flags.braced rest
    let c ← (Text.hexNumber? inner).bind charOfCode?
    return (.char c false, flags.skip after)
  | text => do
    let (value, after) ← fixedHex flags width 0 text
    return (.char (← charOfCode? value) (width = 2), after)

/-- Reads the rest of `\p` or `\P`. -/
def propertyEscape (flags : Flags) (negated : Bool) (text : List Char) :
    Option (Atom × List Char) :=
  match text with
  | [] => none
  | '\x7b' :: rest => do
    let (name, after) ← flags.braced rest
    return (.chars (← flags.property? negated name), after)
  | c :: rest =>
    if c = '\\' then none
    else do return (.chars (← flags.property? negated [c]), flags.skip rest)

/-- Reads what follows `\b`: a word boundary, or a special one named in braces. Braces that start
    with neither a letter nor a hyphen are left for a repetition. -/
def boundaryEscape (flags : Flags) (text : List Char) : Option (Atom × List Char) :=
  match text with
  | '\x7b' :: rest =>
    match flags.skip rest with
    | [] => none
    | c :: _ =>
      if c.isAlpha || c = '-' then do
        let (name, after) ← flags.braced rest
        match String.ofList name with
        | "start" => some (flags.wordLook .start, after)
        | "end" => some (flags.wordLook .finish, after)
        | "start-half" => some (flags.wordLook .startHalf, after)
        | "end-half" => some (flags.wordLook .finishHalf, after)
        | _ => none
      else some (flags.wordLook .boundary, text)
  | text => some (flags.wordLook .boundary, text)

/-- Reads the escape after a backslash. Any ASCII character that is neither a letter nor a digit
    may be escaped and stands for itself, except for the angle brackets. -/
def escape (flags : Flags) (text : List Char) : Option (Atom × List Char) :=
  match text with
  | [] => none
  | c :: rest =>
    match c with
    | 'x' => codeEscape flags 2 (flags.skip rest)
    | 'u' => codeEscape flags 4 (flags.skip rest)
    | 'U' => codeEscape flags 8 (flags.skip rest)
    | 'p' => propertyEscape flags false (flags.skip rest)
    | 'P' => propertyEscape flags true (flags.skip rest)
    | 'a' => some (.char '\x07' false, rest)
    | 'f' => some (.char '\x0c' false, rest)
    | 't' => some (.char '\t' false, rest)
    | 'n' => some (.char '\n' false, rest)
    | 'r' => some (.char '\r' false, rest)
    | 'v' => some (.char '\x0b' false, rest)
    | 'A' => some (.look .textStart, rest)
    | 'z' => some (.look .textEnd, rest)
    | 'b' => boundaryEscape flags rest
    | 'B' => some (flags.wordLook .inside, rest)
    | '<' => some (flags.wordLook .start, rest)
    | '>' => some (flags.wordLook .finish, rest)
    | _ =>
      if c.isAlphanum then (flags.shorthand? c).map (fun set => (.chars set, rest))
      else if c.toNat < 128 then some (.char c false, rest)
      else none

end ProgramOutline.Regex
