import ProgramOutline.Unicode.CharSet

/-!
# Byte sequences of character ranges

In UTF-8 a range of characters becomes a few sequences of byte ranges, such that a text is in a
sequence if its bytes are in the ranges one by one. The sequences are in the order of their
characters.
-/

namespace ProgramOutline.Unicode

/-- Ranges for the bytes of a character, one for each byte. -/
abbrev ByteSequence := List (Nat × Nat)

/-- The sequences of the numbers from `lo` to `hi`, each written with a leading byte and `count`
    bytes of six bits after it; the leading byte is `mark` plus the bits that are left. Numbers
    that share their leading byte with only some others come first and last, all other leading
    bytes make one sequence. -/
def byteSequences (mark : Nat) : Nat → Nat → Nat → List ByteSequence
  | 0, lo, hi => [[(mark + lo, mark + hi)]]
  | count + 1, lo, hi =>
    let block := Nat.pow 64 (count + 1)
    let below (lead lo hi : Nat) : List ByteSequence :=
      (byteSequences 0x80 count lo hi).map ((mark + lead, mark + lead) :: ·)
    let a := lo / block
    let b := hi / block
    let low := lo % block
    let high := hi % block
    if a = b then below a low high
    else
      let first := if low = 0 then [] else below a low (block - 1)
      let last := if high = block - 1 then [] else below b 0 high
      let start := if low = 0 then a else a + 1
      let stop := if high = block - 1 then b + 1 else b
      let middle := if start < stop then
          [(mark + start, mark + stop - 1) :: List.replicate (count + 1) (0x80, 0xBF)]
        else []
      first ++ middle ++ last

/-- The code points by the form of their bytes: first and last, the number of bytes after the
    leading one, and its mark. -/
def byteForms : List (Nat × Nat × Nat × Nat) :=
  [(0, 0x7F, 0, 0), (0x80, 0x7FF, 1, 0xC0), (0x800, 0xD7FF, 2, 0xE0), (0xE000, 0xFFFF, 2, 0xE0),
    (0x10000, 0x10FFFF, 3, 0xF0)]

/-- The sequences of the characters from `lo` to `hi`. -/
def rangeSequences (lo hi : Nat) : List ByteSequence :=
  byteForms.flatMap (fun (first, last, count, mark) =>
    if max lo first ≤ min hi last then byteSequences mark count (max lo first) (min hi last)
    else [])

/-- The sequences of the characters of a set. -/
def setSequences (set : CharSet) : List ByteSequence :=
  set.ranges.flatMap (fun (lo, hi) => rangeSequences lo hi)

end ProgramOutline.Unicode
