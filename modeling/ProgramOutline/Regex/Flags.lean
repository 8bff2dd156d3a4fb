import ProgramOutline.Text.Blank

/-!
# Flags of the pattern notation

Flags change how a pattern is read. They are set for the rest of a group, as in `(?i-s)`, or for
one group, as in `(?x:...)`. In the extended notation blanks are ignored, and so is everything from
`#` to the end of its line.
-/

namespace ProgramOutline.Regex

/-- The flags in force at a place of a pattern. -/
structure Flags where
  /-- `i`: letters match in either case. -/
  ignoreCase : Bool := false
  /-- `m`: `^` and `$` match at line ends. -/
  multiLine : Bool := false
  /-- `s`: the dot matches a line feed too. -/
  dotAll : Bool := false
  /-- `U`: repetitions are lazy unless marked with `?`. -/
  swapGreed : Bool := false
  /-- `u`: characters are code points; without it, classes are ASCII. -/
  unicode : Bool := true
  /-- `R`: a carriage return ends a line too. -/
  crlf : Bool := false
  /-- `x`: the extended notation. -/
  extended : Bool := false
  deriving DecidableEq

namespace Flags

/-- Sets or clears the flag with the given letter. -/
def set? (flags : Flags) (letter : Char) (value : Bool) : Option Flags :=
  match letter with
  | 'i' => some { flags with ignoreCase := value }
  | 'm' => some { flags with multiLine := value }
  | 's' => some { flags with dotAll := value }
  | 'U' => some { flags with swapGreed := value }
  | 'u' => some { flags with unicode := value }
  | 'R' => some { flags with crlf := value }
  | 'x' => some { flags with extended := value }
  | _ => none

/-- Reads flag letters up to `)` or `:`. Each letter and the minus sign may occur once, and the
    minus sign not last. The result has the flags, the closing character and the rest. -/
def read? (flags : Flags) (seen : List Char) : List Char → Option (Flags × Char × List Char)
  | [] => none
  | c :: rest =>
    if c = ')' || c = ':' then
      if seen.head? = some '-' then none else some (flags, c, rest)
    else if seen.contains c then none
    else if c = '-' then read? flags (c :: seen) rest
    else match flags.set? c (!seen.contains '-') with
      | some flags => read? flags (c :: seen) rest
      | none => none

end Flags

/-! ## Blanks and comments of the extended notation -/

/-- The text after leading blanks and comments; `comment` says whether it starts in a comment. -/
def skipNoise (comment : Bool) : List Char → List Char
  | [] => []
  | c :: rest =>
    if comment then skipNoise (c ≠ '\n') rest
    else if Text.isBlank c then skipNoise false rest
    else if c = '#' then skipNoise true rest
    else c :: rest

/-- The text after what the notation ignores. -/
def Flags.skip (flags : Flags) (text : List Char) : List Char :=
  if flags.extended then skipNoise false text else text

/-- What stands before a closing brace, without what the notation ignores, and what follows the
    brace. -/
def bracedText (extended comment : Bool) : List Char → Option (List Char × List Char)
  | [] => none
  | c :: rest =>
    if comment then bracedText extended (c ≠ '\n') rest
    else if extended && Text.isBlank c then bracedText extended false rest
    else if extended && c = '#' then bracedText extended true rest
    else if c = '\x7d' then some ([], rest)
    else (bracedText extended false rest).map (fun (inner, after) => (c :: inner, after))

/-- The braced text in the notation in force. -/
def Flags.braced (flags : Flags) (text : List Char) : Option (List Char × List Char) :=
  bracedText flags.extended false text

end ProgramOutline.Regex
