import ProgramOutline.Rules
import ProgramOutline.Text.Offset

/-!
# Function headers

A function rule is applied to a whole text. Each match with a name is a header; it is placed at its
first character that is not blank, so that a rule may match blank lines before the keyword.
-/

namespace ProgramOutline

/-- A function header as it stands in the text. -/
structure Header where
  qualifier : Option String
  name : String
  /-- The text of the parameter list. -/
  parameters : String
  /-- Where the header starts. -/
  offset : Nat
  /-- Where the header ends. -/
  stop : Nat
  deriving DecidableEq

/-- The text of a group that took part in a match. -/
def Regex.Match.groupText? (m : Regex.Match) (text : List Char) (index : Nat) :
    Option (List Char) :=
  (m.group? index).map (fun span => Text.slice text span.start span.stop)

/-- The header that a match of a function rule describes, unless it has no name. -/
def Header.ofMatch? (text : List Char) (m : Regex.Match) : Option Header := do
  let name ← (m.groupText? text 2).map Text.trim
  if name.isEmpty then none
  else
    let qualifier := (m.groupText? text 1).map Text.trim
    let matched := Text.slice text m.span.start m.span.stop
    return {
      qualifier := (qualifier.filter (fun q => !q.isEmpty)).map String.ofList
      name := String.ofList name
      parameters := String.ofList ((m.groupText? text 3).getD [])
      offset := m.span.start + Text.byteLength (matched.takeWhile Text.isBlank)
      stop := m.span.stop }

/-- The headers that a rule finds in a text, in order. -/
def scanHeaders (rule : Regex.Pattern) (text : List Char) : List Header :=
  (rule.findAll text).filterMap (Header.ofMatch? text)

end ProgramOutline
