import ProgramOutline.Text.Bytes
import ProgramOutline.Unicode.CharSet

/-!
# Positions in a text

A cursor stands between two characters of a text. It knows the character before it, the text after
it, and its offset, the number of bytes that the text before it takes in UTF-8.
-/

namespace ProgramOutline.Regex

/-- A position in a text. -/
structure Cursor where
  before : Option Char
  rest : List Char
  offset : Nat

namespace Cursor

/-- The position after the character `c`, which is followed by `rest`. -/
def past (cur : Cursor) (c : Char) (rest : List Char) : Cursor :=
  ⟨some c, rest, cur.offset + c.utf8Size⟩

/-- The character after the cursor. -/
def after (cur : Cursor) : Option Char := cur.rest.head?

/-- The position after the next character, if that is in the set. -/
def step? (cur : Cursor) (chars : CharSet) : Option Cursor :=
  match cur.rest with
  | [] => none
  | c :: rest => if chars.contains c then some (cur.past c rest) else none

/-- The position after `text`, if that is what follows. -/
def follow? (cur : Cursor) : List Char → Option Cursor
  | [] => some cur
  | c :: text =>
    match cur.rest with
    | [] => none
    | d :: rest => if c = d then (cur.past d rest).follow? text else none

/-- The position after the next `count` characters, if they are all in the set. -/
def skip? (cur : Cursor) (chars : CharSet) : Nat → Option Cursor
  | 0 => some cur
  | count + 1 => (cur.step? chars).bind (fun next => next.skip? chars count)

/-- The position after all characters of the set that follow. -/
def skipAll (chars : CharSet) (before : Option Char) (offset : Nat) : List Char → Cursor
  | [] => ⟨before, [], offset⟩
  | c :: rest =>
    if chars.contains c then skipAll chars (some c) (offset + c.utf8Size) rest
    else ⟨before, c :: rest, offset⟩

end Cursor

end ProgramOutline.Regex
