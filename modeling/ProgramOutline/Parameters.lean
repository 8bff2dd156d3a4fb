import ProgramOutline.Symbol.Basic
import ProgramOutline.Text.Blank

/-!
# Parameter lists

A parameter list is divided at commas. Blanks and semicolons around a parameter are line
continuations and of no account, and a parameter that is nothing else is dropped. A parameter is
typed by a clause `name as Type` or else by the first letter of its name.
-/

namespace ProgramOutline

/-- What to make of a parameter whose first letter says nothing. -/
inductive TypeFallback where
  /-- It has the type `undefined`. -/
  | undefined
  /-- It has no type. -/
  | untyped
  deriving DecidableEq

/-- Which spellings of `as` introduce a type. -/
inductive SeparatorCase where
  /-- Lower case only. -/
  | sensitive
  /-- Either case. -/
  | insensitive
  deriving DecidableEq

/-- How parameters are typed. -/
structure TypingOptions where
  fallback : TypeFallback := .undefined
  separator : SeparatorCase := .sensitive
  deriving DecidableEq

namespace Parameters

/-- Does `c` spell the lower case letter `letter`? -/
def spells (mode : SeparatorCase) (letter c : Char) : Bool :=
  c == letter || (mode == .insensitive && c.toLower == letter)

/-- What follows the word `as` between two spaces, if the text starts so. -/
def afterSeparator? (mode : SeparatorCase) : List Char → Option (List Char)
  | ' ' :: a :: s :: ' ' :: rest =>
    if spells mode 'a' a && spells mode 's' s then some rest else none
  | _ => none

/-- The text before and after the first separator. -/
def cutAtSeparator? (mode : SeparatorCase) : List Char → Option (List Char × List Char)
  | [] => none
  | c :: rest =>
    match afterSeparator? mode (c :: rest) with
    | some after => some ([], after)
    | none => (cutAtSeparator? mode rest).map (fun (before, after) => (c :: before, after))

/-- The name and the declared type of a parameter, unless the text starts with a separator. -/
def declaredType? (mode : SeparatorCase) (token : List Char) : Option (List Char × List Char) :=
  (cutAtSeparator? mode token).filter (fun cut => !cut.1.isEmpty)

/-- The type of a parameter by the first letter of its name. -/
def inferredType (fallback : TypeFallback) (token : List Char) : Option ParamType :=
  match token.head?.bind ParamType.ofInitial?, fallback with
  | some t, _ => some t
  | none, .undefined => some .undefined
  | none, .untyped => none

/-- The parameter that a text stands for. -/
def parameter (options : TypingOptions) (token : List Char) : Parameter :=
  match declaredType? options.separator token with
  | some (name, type) =>
    ⟨String.ofList (Text.trim name), some (.ofName (String.ofList (Text.trim type)))⟩
  | none => ⟨String.ofList token, inferredType options.fallback token⟩

/-- Is `c` of no account at the ends of a parameter? -/
def isNoise (c : Char) : Bool := c == ';' || Text.isBlank c

/-- The texts of the parameters in a list. -/
def tokens (list : List Char) : List (List Char) :=
  ((Text.splitOn ',' list).map (Text.stripWhile isNoise)).filter (fun token => !token.isEmpty)

/-- The parameters in a list. -/
def parse (options : TypingOptions) (list : List Char) : List Parameter :=
  (tokens list).map (parameter options)

end Parameters

end ProgramOutline
