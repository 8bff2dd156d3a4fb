import ProgramOutline.Header

/-!
# Function bodies

A function runs from its header to the next line that starts with `Return`, that line included. If
another function is declared before that line, the body has no end. Variables are looked for
between the end of the header and the end of the body.
-/

namespace ProgramOutline

/-- The stretch of a text that a function takes up. -/
structure BodySpan where
  /-- Where the header starts. -/
  start : Nat
  /-- Where the header ends. -/
  bodyStart : Nat
  /-- The end of the line that ends the body. -/
  stop : Nat
  deriving DecidableEq

namespace Regex

/-- The letters of a word in either case. -/
def anyCase (word : List Char) : List Expr :=
  word.map (fun c => .ofSet false (CharSet.single c).caseClosure)

/-- A space or a tab. -/
def spaceOrTab : Expr := .ofSet false (.ofList ['\t', ' '])

/-- Any character but `c`. -/
def allBut (c : Char) : Expr := .ofSet false (CharSet.single c).complement

/-- A line that starts with the word `Return`, to its end. -/
def returnLine : Expr :=
  .concat ([.look .lineStart] ++ anyCase "Return".toList ++
    [.look (.word .boundary false), .rep 0 none true (allBut '\n'),
      .alternation [.literal ['\n'], .look .textEnd]])

/-- A header of the function with the given name: the word before it if there is one, the keyword,
    the name, and a parameter list. -/
def headerOf (name : List Char) : Expr :=
  let blanks := Expr.rep 1 none true spaceOrTab
  let boundary := Expr.look (.word .boundary false)
  .concat ([.repetition 0 (some 1) true
      (.concat [boundary, .rep 1 none true (.set false Unicode.word), blanks]), boundary] ++
    anyCase "Function".toList ++ [blanks] ++ anyCase name ++
    [.rep 0 none true spaceOrTab, .literal ['('], .rep 0 none true (allBut ')'),
      .literal [')']])

end Regex

/-- The body of the function whose header lies between `start` and `headerStop`. The next function,
    if there is one, is declared at `limit`. -/
def findBody (text : List Char) (start headerStop : Nat) (limit : Option Nat) : Option BodySpan :=
  if Text.byteLength text < headerStop ∨ headerStop < start then none
  else
    match Regex.returnLine.plain.findFrom text headerStop with
    | none => none
    | some line =>
      if limit.any (· ≤ line.span.start) then none
      else some ⟨start, headerStop, line.span.stop⟩

namespace BodySpan

/-- The text of the function, if the span starts and ends between characters. -/
def text? (span : BodySpan) (text : List Char) : Option (List Char) :=
  if Text.isBoundary span.start text && Text.isBoundary span.stop text &&
      span.start ≤ span.stop then
    some (Text.slice text span.start span.stop)
  else none

end BodySpan

/-- The variable that a match of the variable rule declares, unless it has no name. -/
def Variable.ofMatch? (text : List Char) (m : Regex.Match) : Option Variable := do
  let name ← (m.groupText? text 2).map Text.trim
  if name.isEmpty then none
  else return ⟨String.ofList (((m.groupText? text 1).map Text.trim).getD []), String.ofList name⟩

/-- The matches of a tree in the window, as a walk over the text. After an empty match the search
    goes on one character later. -/
def Regex.Tree.declarationsAlong (t : Tree) (size : Nat) (window : Window) (tried : Tried)
    (before : Option Char) (offset : Nat) : List Char → List Match
  | [] => (t.matchFrom size window tried ⟨before, [], offset⟩).1.toList
  | c :: rest =>
    let next := offset + c.utf8Size
    match t.matchFrom size window tried ⟨before, c :: rest, offset⟩ with
    | (some m, tried) =>
      m :: declarationsAlong t size ⟨m.span.stop, window.last⟩ (tried.restart m.span.stop)
        (some c) next rest
    | (none, tried) => declarationsAlong t size window tried (some c) next rest

/-- The matches of a pattern from `start` on. -/
def Regex.Pattern.declarations (pattern : Pattern) (text : List Char) (start : Nat) :
    List Match :=
  match pattern.window? text start with
  | none => []
  | some window =>
    let size := offsetBound text
    pattern.tree.declarationsAlong size window (.start size) none 0 text

/-- The variables declared in a body, in order and with repetitions. The text after the body is out
    of sight; the text before it is not searched. -/
def scanVariables (rule : Regex.Pattern) (text : List Char) (bodyStart stop : Nat) :
    List Variable :=
  let visible := Text.takeBytes stop text
  (rule.declarations visible bodyStart).filterMap (Variable.ofMatch? visible)

/-- The variables declared in a body, provided it ends between two characters of the text. -/
def scanVariables? (rule : Regex.Pattern) (text : List Char) (bodyStart stop : Nat) :
    Option (List Variable) :=
  if Text.isBoundary stop text then some (scanVariables rule text bodyStart stop) else none

/-- The variables of the first function with the given name. A name whose header would be too large
    a pattern has none. -/
def scanVariablesOf (rule : Regex.Pattern) (text name : List Char) : List Variable :=
  let header := Regex.headerOf name
  if header.fits then
    match header.plain.findFrom text 0 with
    | none => []
    | some m =>
      match findBody text m.span.start m.span.stop none with
      | none => []
      | some body => scanVariables rule text body.bodyStart body.stop
  else []

end ProgramOutline
