import ProgramOutline.Ascending

/-!
# Line numbers

Lines are counted from 1 and end at a line feed; a carriage return before it belongs to the line.
A line number is a 32-bit word. `lineOf` counts the line feeds before an offset; a `LineIndex`
stores where the lines of a text start and looks an offset up by bisection.
-/

namespace ProgramOutline.Text

/-- The number of line feeds among the first `n` bytes of a text. -/
def breaksBefore : Nat → List Char → Nat
  | 0, _ => 0
  | _ + 1, [] => 0
  | n + 1, c :: rest =>
    (if c = '\n' then 1 else 0) + breaksBefore (n + 1 - c.utf8Size) rest

/-- The line that holds a byte offset. Offsets past the end belong to the last line. -/
def lineOf (text : List Char) (offset : Nat) : UInt32 :=
  UInt32.ofNat (breaksBefore offset text + 1)

/-- The offsets after the line feeds of a text that starts at `offset`. -/
def lineStarts (offset : Nat) : List Char → List Nat
  | [] => []
  | c :: rest =>
    let next := offset + c.utf8Size
    if c = '\n' then next :: lineStarts next rest else lineStarts next rest

end ProgramOutline.Text

namespace ProgramOutline

/-- Where the lines of a text start, and its length in bytes. -/
structure LineIndex where
  starts : Array Nat
  length : Nat

namespace LineIndex

/-- The index of a text. -/
def ofText (text : List Char) : LineIndex :=
  ⟨(0 :: Text.lineStarts 0 text).toArray, text.foldl (fun n c => n + c.utf8Size) 0⟩

/-- The line that holds a byte offset. -/
def lineOf (index : LineIndex) (offset : Nat) : UInt32 :=
  UInt32.ofNat (Ascending.rank index.starts (min offset index.length))

/-- The number of lines. -/
def lineCount (index : LineIndex) : Nat := index.starts.size

end LineIndex

end ProgramOutline
