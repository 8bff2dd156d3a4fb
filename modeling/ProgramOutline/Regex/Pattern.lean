import ProgramOutline.Regex.Brackets
import ProgramOutline.Regex.Layout
import ProgramOutline.Regex.Search
import ProgramOutline.Unicode.Recent

/-!
# Patterns

The notation for regular expressions. A pattern is read from left to right with a stack of open
groups; `compile` gives its search tree and the number of its groups. A pattern is refused if it is
malformed, nested more than `maxDepth` levels deep or too large to be searched for.
-/

namespace ProgramOutline.Regex

/-- A part of a pattern that has been read. -/
structure Piece where
  expr : Expr
  /-- The levels of nesting, a sequence or an alternation of two or more counting as one. -/
  depth : Nat := 0
  /-- Is it a setting of flags, which cannot be repeated? -/
  setting : Bool := false

/-- The state of reading inside of one group. -/
structure Level where
  flags : Flags
  /-- The finished branches, last first. -/
  branches : List Piece := []
  /-- The parts of the branch being read, last first. -/
  parts : List Piece := []

/-- The state of reading a pattern. -/
structure Reading where
  level : Level
  /-- The enclosing groups: their state, and the number of the group inside if it has one. -/
  enclosing : List (Level × Option Nat) := []
  groups : Nat := 0
  names : List (List Char) := []

/-- Several pieces as one, by `join`; two or more make a level of their own. -/
def Piece.join (join : List Expr → Expr) : List Piece → Piece
  | [] => { expr := .empty }
  | [p] => p
  | pieces => ⟨join (pieces.map (·.expr)), pieces.foldl (fun d p => max d p.depth) 0 + 1, false⟩

namespace Level

/-- The branch being read as a piece. -/
def branch (l : Level) : Piece := .join .concat l.parts.reverse

/-- All branches as a piece. -/
def piece (l : Level) : Piece := .join .alternation (l.branch :: l.branches).reverse

end Level

namespace Reading

/-- Adds a part to the branch being read. -/
def push (r : Reading) (p : Piece) : Reading :=
  { r with level := { r.level with parts := p :: r.level.parts } }

/-- Adds an expression that is nested `depth` levels deep. -/
def pushExpr (r : Reading) (e : Expr) (depth : Nat) : Reading := r.push ⟨e, depth, false⟩

/-- Adds a setting of flags. -/
def pushFlags (r : Reading) (flags : Flags) : Reading :=
  { r with level := { r.level with flags, parts := ⟨.empty, 0, true⟩ :: r.level.parts } }

/-- Starts the next branch. -/
def nextBranch (r : Reading) : Reading :=
  { r with level := { r.level with branches := r.level.branch :: r.level.branches, parts := [] } }

/-- Opens a group with the given flags and number. -/
def openGroup (r : Reading) (flags : Flags) (index : Option Nat) : Reading :=
  { r with level := { flags }, enclosing := (r.level, index) :: r.enclosing }

/-- Opens a group that gets the next number. -/
def openCapture (r : Reading) : Reading :=
  { r.openGroup r.level.flags (some (r.groups + 1)) with groups := r.groups + 1 }

/-- Closes the innermost group. -/
def closeGroup? (r : Reading) : Option Reading :=
  match r.enclosing with
  | [] => none
  | (outer, index) :: enclosing =>
    let inner := r.level.piece
    let expr := match index with
      | some i => .group i inner.expr
      | none => inner.expr
    some ({ r with level := outer, enclosing }.pushExpr expr (inner.depth + 1))

/-- Repeats the last part. -/
def repeat? (r : Reading) (least : Nat) (most : Option Nat) (greedy : Bool) : Option Reading :=
  match r.level.parts with
  | [] => none
  | p :: parts =>
    if p.setting then none
    else
      let expr := Expr.repetition least most (greedy != r.level.flags.swapGreed) p.expr
      some { r with level := { r.level with parts := ⟨expr, p.depth + 1, false⟩ :: parts } }

end Reading

/-! ## Repetitions -/

/-- The largest count of a repetition. -/
def maxCount : Nat := 0xFFFFFFFF

/-- A count, with blanks around it. -/
def count? (text : List Char) : Option Nat :=
  (Text.decimalNumber? (Text.trim text)).filter (· ≤ maxCount)

/-- The bounds of a counted repetition: `n`, `n,` or `n,m`. -/
def bounds? (inner : List Char) : Option (Nat × Option Nat) :=
  match Text.splitOn ',' inner with
  | [one] => (count? one).map (fun n => (n, some n))
  | [least, []] => (count? least).map (fun n => (n, none))
  | [least, most] => do
    let n ← count? least
    let m ← count? most
    if n ≤ m then return (n, some m) else none
  | _ => none

/-- Reads the mark of a lazy repetition. -/
def lazyMark (text : List Char) : Bool × List Char :=
  match text with
  | '?' :: rest => (false, rest)
  | text => (true, text)

/-- Reads a repetition with the given bounds. -/
def repetition? (r : Reading) (least : Nat) (most : Option Nat) (text : List Char) :
    Option (Reading × List Char) := do
  let (greedy, rest) := lazyMark text
  return (← r.repeat? least most greedy, rest)

/-! ## Groups -/

/-- May `c` stand in the name of a group? -/
def isNameChar (first : Bool) (c : Char) : Bool :=
  let alphabetic := Unicode.alphabetic.contains c || Unicode.recentAlphabetic.contains c
  let number := Unicode.number.contains c || Unicode.recentNumber.contains c
  c = '_' || alphabetic || (!first && (c = '.' || c = '[' || c = ']' || number))

/-- Is the text a name for a group? -/
def isName : List Char → Bool
  | [] => false
  | c :: rest => isNameChar true c && rest.all (isNameChar false)

/-- Opens a group with a name, which no other group has. -/
def namedGroup? (r : Reading) (text : List Char) : Option (Reading × List Char) :=
  let name := text.takeWhile (· ≠ '>')
  match text.dropWhile (· ≠ '>') with
  | '>' :: rest =>
    if isName name && !r.names.contains name then
      some ({ r.openCapture with names := name :: r.names }, rest)
    else none
  | _ => none

/-- Reads what follows an opening parenthesis. Conditions on the text around are refused. -/
def group? (r : Reading) (text : List Char) : Option (Reading × List Char) :=
  match r.level.flags.skip text with
  | '?' :: '=' :: _ => none
  | '?' :: '!' :: _ => none
  | '?' :: '<' :: '=' :: _ => none
  | '?' :: '<' :: '!' :: _ => none
  | '?' :: 'P' :: '<' :: rest => namedGroup? r rest
  | '?' :: '<' :: rest => namedGroup? r rest
  | '?' :: ')' :: _ => none
  | '?' :: rest => do
    let (flags, close, after) ← r.level.flags.read? [] rest
    if close = ')' then return (r.pushFlags flags, after)
    else return (r.openGroup flags none, after)
  | rest => some (r.openCapture, rest)

/-! ## Atoms -/

/-- One character of a set that is written under the flags. -/
def Flags.oneOf (flags : Flags) (set : CharSet) : Expr := .ofSet (!flags.unicode) set

/-- The expression of a literal. Without the `u` flag a byte beyond ASCII is no character. -/
def literal? (flags : Flags) (c : Char) (byte : Bool) : Option Expr :=
  if flags.unicode || c.toNat < 128 then some (flags.oneOf (flags.closeCase (.single c)))
  else if byte then none
  else some (.literal [c])

/-- The set that a dot matches. -/
def dot? (flags : Flags) : Option CharSet :=
  if !flags.unicode then none
  else if flags.dotAll then some .all
  else if flags.crlf then some (CharSet.ofList ['\n', '\r']).complement
  else some (CharSet.single '\n').complement

/-- The condition of a caret. -/
def caret (flags : Flags) : Look :=
  if flags.multiLine then if flags.crlf then .crlfLineStart else .lineStart else .textStart

/-- The condition of a dollar sign. -/
def dollar (flags : Flags) : Look :=
  if flags.multiLine then if flags.crlf then .crlfLineEnd else .lineEnd else .textEnd

/-- The expression of an atom. -/
def atom? (flags : Flags) : Atom → Option Expr
  | .char c byte => literal? flags c byte
  | .chars set => some (flags.oneOf set)
  | .look condition => some (.look condition)

/-! ## The whole pattern -/

/-- Reads the next part of a pattern, which starts with `c`. -/
def step? (r : Reading) (c : Char) (rest : List Char) : Option (Reading × List Char) :=
  let flags := r.level.flags
  match c with
  | '(' => group? r rest
  | ')' => do return (← r.closeGroup?, rest)
  | '|' => some (r.nextBranch, rest)
  | '[' => do
    let (part, after) ← brackets flags rest
    return (r.pushExpr (flags.oneOf part.set) part.depth, after)
  | '?' => repetition? r 0 (some 1) rest
  | '*' => repetition? r 0 none rest
  | '+' => repetition? r 1 none rest
  | '\x7b' => do
    let (inner, after) ← flags.braced rest
    let (least, most) ← bounds? inner
    repetition? r least most (flags.skip after)
  | '\\' => do
    let (atom, after) ← escape flags rest
    return (r.pushExpr (← atom? flags atom) 0, after)
  | '.' => do return (r.pushExpr (flags.oneOf (← dot? flags)) 0, rest)
  | '^' => some (r.pushExpr (.look (caret flags)) 0, rest)
  | '$' => some (r.pushExpr (.look (dollar flags)) 0, rest)
  | c => do return (r.pushExpr (← literal? flags c false) 0, rest)

/-- Reads a pattern to its end. Each turn reads at least one character, so the length of the text
    bounds the turns. -/
def readAll : Nat → Reading → List Char → Option Reading
  | 0, _, _ => none
  | fuel + 1, r, text =>
    match r.level.flags.skip text with
    | [] => some r
    | c :: rest =>
      match step? r c rest with
      | some (r, rest) => readAll fuel r rest
      | none => none

/-- The deepest nesting of a pattern. -/
def maxDepth : Nat := 250

/-- The expression of a pattern read under the given flags. -/
def parse? (flags : Flags) (pattern : List Char) : Option Expr := do
  let r ← readAll (pattern.length + 1) { level := { flags } } pattern
  let whole := r.level.piece
  if r.enclosing.isEmpty && whole.depth ≤ maxDepth then return whole.expr else none

/-! ## Ready patterns -/

/-- A pattern ready to be searched for. -/
structure Pattern where
  /-- The text of the pattern. -/
  source : String
  /-- The number of its groups. -/
  groups : Nat
  /-- Sets of which every match holds a character each, in this order. -/
  needs : List CharSet
  tree : Tree
  deriving DecidableEq

/-- Reads a pattern whose letters match in either case unless it says otherwise. -/
def compile? (source : String) : Option Pattern := do
  let e ← parse? { ignoreCase := true } source.toList
  let needs := if e.straight then [] else e.needs
  if e.fits then return ⟨source, e.groupCount, needs, e.tree⟩ else none

namespace Pattern

/-- The offsets from `start` on at which a match in the text may start. -/
def window? (pattern : Pattern) (text : List Char) (start : Nat) : Option Window :=
  if pattern.needs.isEmpty then some ⟨start, offsetBound text⟩
  else (lastStart? pattern.needs text).map (fun last => ⟨start, last⟩)

/-- All successive matches in a text, leftmost first. They do not overlap, and none is an empty
    match right where the one before it ended. -/
def findAll (pattern : Pattern) (text : List Char) : List Match :=
  match pattern.window? text 0 with
  | none => []
  | some window =>
    let size := offsetBound text
    pattern.tree.matchesAlong size window none (.start size) none 0 text

end Pattern

end ProgramOutline.Regex
