import ProgramOutline.Unicode.Word

/-!
# Conditions on a position

A condition looks at the characters before and after a position of the text and consumes nothing.
A missing neighbour is an end of the text.
-/

namespace ProgramOutline.Regex

/-- The ways in which a position can lie at the edge of a word. -/
inductive WordEdge where
  | boundary
  | inside
  | start
  | finish
  | startHalf
  | finishHalf
  deriving DecidableEq

/-- A condition on the two characters around a position. -/
inductive Look where
  /-- Start of the text. -/
  | textStart
  /-- End of the text. -/
  | textEnd
  /-- Start of a line; lines end at a line feed. -/
  | lineStart
  /-- End of a line. -/
  | lineEnd
  /-- Start of a line; lines end at a line feed, a carriage return or both together. -/
  | crlfLineStart
  /-- End of a line in the same sense. -/
  | crlfLineEnd
  /-- A place at or inside a word, of ASCII characters only if `ascii`. -/
  | word (edge : WordEdge) (ascii : Bool)
  deriving DecidableEq

/-- Does the edge condition hold between a neighbour that is in a word and one that is not? -/
def WordEdge.holds (edge : WordEdge) (before after : Bool) : Bool :=
  match edge with
  | .boundary => before != after
  | .inside => before == after
  | .start => !before && after
  | .finish => before && !after
  | .startHalf => !before
  | .finishHalf => !after

/-- Does the condition hold between these two neighbours? -/
def Look.holds (look : Look) (before after : Option Char) : Bool :=
  match look with
  | .textStart => before.isNone
  | .textEnd => after.isNone
  | .lineStart => before.isNone || before == some '\n'
  | .lineEnd => after.isNone || after == some '\n'
  | .crlfLineStart =>
    before.isNone || before == some '\n' || (before == some '\r' && after != some '\n')
  | .crlfLineEnd =>
    after.isNone || after == some '\r' || (after == some '\n' && before != some '\r')
  | .word edge ascii =>
    let inWord := if ascii then Unicode.isAsciiWord else Unicode.isWord
    edge.holds (before.any inWord) (after.any inWord)

end ProgramOutline.Regex
