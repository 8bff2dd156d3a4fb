import Std.Data.HashSet.Basic

/-!
# Choices already tried

Which marked choices a search has tried at which offsets of the text. The choices at offsets after
the end of a match have all failed when the match is found, so the search for the next match can
go on without them. It starts where the match ended, and only what was tried at that very offset is
forgotten.
-/

namespace ProgramOutline.Regex

/-- The marked choices tried so far. -/
structure Tried where
  /-- The number of bytes that hold one bit for each offset. -/
  width : Nat
  /-- Where the search for the current match starts. -/
  base : Nat
  /-- The marks tried at that offset. -/
  near : Std.HashSet Nat := ∅
  /-- For each mark one bit for each offset. A mark that has not been tried may have none. -/
  rows : Array ByteArray := #[]

namespace Tried

/-- Nothing has been tried in a text whose offsets are below `size`. -/
def start (size : Nat) : Tried := { width := size / 8 + 1, base := 0 }

/-- Starts the search for the next match. -/
def restart (t : Tried) (base : Nat) : Tried := { t with base, near := ∅ }

/-- Is the bit of an offset set? -/
def bit (row : ByteArray) (offset : Nat) : Bool :=
  if h : offset / 8 < row.size then
    (row[offset / 8] >>> (offset % 8).toUInt8) &&& 1 == 1
  else false

/-- The row with a byte for the bit of an offset, and with `width` bytes if it had none for it. -/
def widen (width : Nat) (row : ByteArray) (offset : Nat) : ByteArray :=
  if offset / 8 < row.size then row
  else ⟨row.data ++ Array.replicate (max width (offset / 8 + 1) - row.size) 0⟩

theorem lt_size_widen (width : Nat) (row : ByteArray) (offset : Nat) :
    offset / 8 < (widen width row offset).size := by
  unfold widen
  split
  · assumption
  · simp only [ByteArray.size, Array.size_append, Array.size_replicate]
    omega

/-- Sets the bit of an offset. -/
def setBit (width : Nat) (row : ByteArray) (offset : Nat) : ByteArray :=
  let row := widen width row offset
  have h : offset / 8 < row.size := lt_size_widen ..
  row.set (offset / 8) (row[offset / 8] ||| (1 <<< (offset % 8).toUInt8))

/-- Has the choice with a mark been tried at an offset? -/
def has (t : Tried) (mark offset : Nat) : Bool :=
  if offset = t.base then t.near.contains mark
  else match t.rows[mark]? with
    | some row => bit row offset
    | none => false

/-- Rows for the marks up to `mark`. -/
def grow (rows : Array ByteArray) (mark : Nat) : Array ByteArray :=
  if mark < rows.size then rows else rows ++ Array.replicate (mark + 1 - rows.size) .empty

/-- The choice with a mark is tried at an offset. -/
def add (t : Tried) (mark offset : Nat) : Tried :=
  if offset = t.base then { t with near := t.near.insert mark }
  else { t with rows := (grow t.rows mark).modify mark (setBit t.width · offset) }

end Tried

end ProgramOutline.Regex
