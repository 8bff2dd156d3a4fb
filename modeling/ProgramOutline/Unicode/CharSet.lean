import ProgramOutline.Text.Pieces

/-!
# Sets of characters

A set of characters is a list of code point ranges, ascending and apart. Ranges start and end at
characters; the codes of surrogates inside of a range do not count.

Tables are written as blank-separated hexadecimal code points: `41` is one character, `41-5A` a
range, and `100-12E/2` every second character of a range.
-/

namespace ProgramOutline

/-- A set of code points, as ascending ranges with a gap between any two. -/
structure CharSet where
  ranges : List (Nat × Nat)
  deriving DecidableEq

namespace CharSet

/-- The last code point. -/
def lastCode : Nat := 0x10FFFF

/-- Does one of the ascending ranges hold `n`? -/
def inRanges (n : Nat) : List (Nat × Nat) → Bool
  | [] => false
  | (lo, hi) :: rest => if n < lo then false else if n ≤ hi then true else inRanges n rest

/-- Is `c` in the set? -/
def contains (s : CharSet) (c : Char) : Bool := inRanges c.toNat s.ranges

/-- Adds a range, merging it with the ranges it touches. -/
def insertRange (lo hi : Nat) : List (Nat × Nat) → List (Nat × Nat)
  | [] => [(lo, hi)]
  | (a, b) :: rest =>
    if hi + 1 < a then (lo, hi) :: (a, b) :: rest
    else if b + 1 < lo then (a, b) :: insertRange lo hi rest
    else insertRange (min lo a) (max hi b) rest

/-- Puts those of the ascending ranges that start before `r`, then `r`, and goes on with `next`. -/
def weave (r : Nat × Nat) (next : List (Nat × Nat) → List (Nat × Nat)) :
    List (Nat × Nat) → List (Nat × Nat)
  | [] => r :: next []
  | s :: rest => if s.1 < r.1 then s :: weave r next rest else r :: next (s :: rest)

/-- Two ascending lists of ranges as one. -/
def interleave : List (Nat × Nat) → List (Nat × Nat) → List (Nat × Nat)
  | [], ranges => ranges
  | r :: rest, ranges => weave r (interleave rest) ranges

/-- The range from `lo` to `hi` and those after it, which start no earlier. Ranges that touch are
    merged. -/
def fuse (lo hi : Nat) : List (Nat × Nat) → List (Nat × Nat)
  | [] => [(lo, hi)]
  | (a, b) :: rest => if a ≤ hi + 1 then fuse lo (max hi b) rest else (lo, hi) :: fuse a b rest

/-- Ranges in the order of their starts, with those that touch merged. -/
def fuseAll : List (Nat × Nat) → List (Nat × Nat)
  | [] => []
  | (lo, hi) :: rest => fuse lo hi rest

/-- The code point after `n`. The codes from `D800` to `DFFF` belong to no character. -/
def next (n : Nat) : Nat := if n = 0xD7FF then 0xE000 else n + 1

/-- The code point before `n`. -/
def prior (n : Nat) : Nat := if n = 0xE000 then 0xD7FF else n - 1

/-- The ranges between the given ones, from `first` on. Between a range that ends at `D7FF` and one
    that starts at `E000` there is no character; these two stand for the gap. -/
def gaps (first : Nat) : List (Nat × Nat) → List (Nat × Nat)
  | [] => if first ≤ lastCode then [(first, lastCode)] else []
  | (a, b) :: rest =>
    if first < a then (first, prior a) :: gaps (next b) rest
    else if first = 0xE000 then (prior first, first) :: gaps (next b) rest
    else gaps (next b) rest

/-- The common parts of two lists of ascending ranges. -/
def overlaps : List (Nat × Nat) → List (Nat × Nat) → List (Nat × Nat)
  | [], _ => []
  | (lo, hi) :: rest, others =>
    let others := others.dropWhile (fun r => r.2 < lo)
    (others.takeWhile (fun r => r.1 ≤ hi)).map (fun r => (max lo r.1, min hi r.2)) ++
      overlaps rest others

/-- What is left of a range when the given ones are taken out. -/
def cut (lo hi : Nat) : List (Nat × Nat) → List (Nat × Nat)
  | [] => [(lo, hi)]
  | (a, b) :: rest =>
    if b < lo then cut lo hi rest
    else if hi < a then [(lo, hi)]
    else
      let left := if lo < a then [(lo, prior a)] else []
      if b < hi then left ++ cut (next b) hi rest else left

/-- What is left of ascending ranges when others are taken out. -/
def remains : List (Nat × Nat) → List (Nat × Nat) → List (Nat × Nat)
  | [], _ => []
  | (lo, hi) :: rest, others =>
    let others := others.dropWhile (fun r => r.2 < lo)
    cut lo hi (others.takeWhile (fun r => r.1 ≤ hi)) ++ remains rest others

/-- The set without characters. -/
def empty : CharSet := ⟨[]⟩

/-- The set of all characters. -/
def all : CharSet := ⟨[(0, lastCode)]⟩

/-- The characters from `lo` to `hi`. -/
def range (lo hi : Char) : CharSet := ⟨[(lo.toNat, hi.toNat)]⟩

/-- The set of one character. -/
def single (c : Char) : CharSet := range c c

/-- The characters of either set. -/
def union (s t : CharSet) : CharSet := ⟨fuseAll (interleave s.ranges t.ranges)⟩

/-- The characters listed. -/
def ofList (chars : List Char) : CharSet :=
  ⟨chars.foldl (fun ranges c => insertRange c.toNat c.toNat ranges) []⟩

/-- The characters not in the set. -/
def complement (s : CharSet) : CharSet := ⟨gaps 0 s.ranges⟩

/-- The characters of both sets. -/
def inter (s t : CharSet) : CharSet := ⟨overlaps s.ranges t.ranges⟩

/-- The characters of the first set that are not in the second. -/
def diff (s t : CharSet) : CharSet := ⟨remains s.ranges t.ranges⟩

/-- The characters in exactly one of the sets. -/
def symmDiff (s t : CharSet) : CharSet := (s.union t).diff (s.inter t)

/-- Have the sets no character in common? -/
def disjoint (s t : CharSet) : Bool := (s.inter t).ranges.isEmpty

/-- Does the set hold no character beyond code point 127? -/
def isAscii (s : CharSet) : Bool := s.ranges.all (fun r => r.2 < 128)

/-- The number of code points in the set. -/
def size (s : CharSet) : Nat := s.ranges.foldl (fun n r => n + (r.2 + 1 - r.1)) 0

/-- The characters of the set, in order. -/
def chars (s : CharSet) : List Char :=
  s.ranges.flatMap (fun r => (List.range (r.2 + 1 - r.1)).map (fun i => Char.ofNat (r.1 + i)))

/-! ## Tables -/

/-- The ranges of one table entry: `41`, `41-5A` or `100-12E/2`. -/
def entryRanges (entry : List Char) : List (Nat × Nat) :=
  match Text.splitOn '/' entry with
  | [bounds] => match Text.splitOn '-' bounds with
    | [one] => match Text.hexNumber? one with
      | some n => [(n, n)]
      | none => []
    | [lo, hi] => match Text.hexNumber? lo, Text.hexNumber? hi with
      | some a, some b => [(a, b)]
      | _, _ => []
    | _ => []
  | [bounds, _] => match (Text.splitOn '-' bounds).filterMap Text.hexNumber? with
    | [a, b] => (List.range ((b - a) / 2 + 1)).map (fun i => (a + 2 * i, a + 2 * i))
    | _ => []
  | _ => []

/-- Reads a table of ascending entries. -/
def ofText (table : String) : CharSet :=
  ⟨((Text.splitOn ' ' (table.toList.map (fun c => if c = '\n' then ' ' else c))).filter
    (· ≠ [])).flatMap entryRanges⟩

end CharSet

end ProgramOutline
