import ProgramOutline.Regex.Expr
import ProgramOutline.Regex.LiteralTree

/-!
# Size of an expression

An expression is searched for with two matching programs, one that reads forwards and one that
reads backwards from the end of a match. `Layout` lists the states of a program in the order in
which they are made, with repetitions unrolled; `Layout.extent` measures it. An expression `fits`
if neither program takes more than `maxBytes`.
-/

namespace ProgramOutline.Regex

/-- The direction in which a program reads the text. -/
inductive Direction where
  | forward
  | backward
  deriving DecidableEq

/-- The states of a program or of a part of it. -/
inductive Layout where
  /-- States whose edges are known. -/
  | states (extent : Program.Extent)
  /-- The states of a set with characters beyond ASCII. -/
  | chars (set : CharSet)
  | join (first second : Layout)
  /-- A number of copies of the same part. -/
  | copies (count : Nat) (body : Layout)

/-- The most bytes that a program may take. -/
def maxBytes : Nat := 10 * 0x100000

/-- Takes `step` a number of times, or until the programs are too large. -/
def growTimes (step : Program.Extent → Program.Extent) :
    Nat → Program.Extent → Program.Extent
  | 0, x => x
  | count + 1, x => if maxBytes < x.bytes then x else growTimes step count (step x)

namespace Layout

open Program

/-- A number of states with extra bytes for all of them together. -/
def fixed (count extra : Nat) : Layout := states ⟨count, stateBytes * count + extra⟩

/-- One part after another. -/
def append (first second : Layout) : Layout :=
  match first, second with
  | states x, states y => states (x.add y)
  | first, second => join first second

/-- Copies of a part. -/
def times (count : Nat) (body : Layout) : Layout :=
  match body with
  | states x => states ⟨count * x.states, count * x.bytes⟩
  | body => copies count body

/-- The extent of a program to which the states are added, or at least until it is too large. -/
def extent (direction : Direction) : Layout → Extent → Extent
  | states y, x => x.add y
  | chars set, x => match direction with
    | .forward => forwardSet x (Unicode.setSequences set)
    | .backward => backwardSet x (Unicode.setSequences set)
  | join first second, x =>
    let y := first.extent direction x
    if maxBytes < y.bytes then y else second.extent direction y
  | copies count body, x => growTimes (body.extent direction) count x

end Layout

/-- Where a branch stands in an alternation: by itself or first, second, or after that. The states
    that join the branches are made after the second one. -/
inductive BranchPlace where
  | alone
  | second
  | later
  deriving DecidableEq

/-- Adds the states that join a branch to those before it. -/
def BranchPlace.close (place : BranchPlace) (branch : Layout) : Layout :=
  match place with
  | alone => branch
  | second => branch.append (.fixed 2 (2 * Program.linkBytes))
  | later => branch.append (.fixed 0 Program.linkBytes)

namespace Expr

open Program

/-- The text of a literal. -/
def literal? : Expr → Option (List Char)
  | literal text => some text
  | _ => none

/-- The bytes of a text in the order in which a program reads them. -/
def bytes (direction : Direction) (text : List Char) : List Nat :=
  let all := text.flatMap (fun c => (String.utf8EncodeChar c).map UInt8.toNat)
  match direction with
  | .forward => all
  | .backward => all.reverse

/-- The states of a set. -/
def setLayout (narrow : Bool) (chars : CharSet) : Layout :=
  if narrow || chars.isAscii then .fixed 2 (edgeBytes * chars.ranges.length)
  else .chars chars

/-- The states of a repetition. -/
def repLayout (least : Nat) (most : Option Nat) (consuming : Bool) (body : Layout) : Layout :=
  let choice := Layout.fixed 1 (2 * linkBytes)
  let exactly := if least = 0 then .fixed 1 0 else body.times least
  match most with
  | none =>
    if 0 < least then exactly.append choice
    else if consuming then choice.append body
    else body.append (.fixed 3 (4 * linkBytes))
  | some most =>
    if most = least then exactly
    else if most = 1 then choice.append (body.append (.fixed 1 0))
    else exactly.append ((Layout.fixed 1 0).append ((choice.append body).times (most - least)))

/-- The states of an expression. -/
def layout (direction : Direction) (place : BranchPlace) : Expr → Layout
  | empty => place.close (.fixed 1 0)
  | literal text => place.close (.fixed (Text.byteLength text) 0)
  | set narrow chars => place.close (setLayout narrow chars)
  | look _ => place.close (.fixed 1 0)
  | group _ body =>
    let inner := body.layout direction .alone
    place.close <| match direction with
      | .forward => (Layout.fixed 1 0).append (inner.append (.fixed 1 0))
      | .backward => inner
  | rep least most _ body =>
    place.close (repLayout least most body.consuming (body.layout direction .alone))
  | cat first second =>
    let a := first.layout direction .alone
    let b := second.layout direction .alone
    place.close (if direction = .forward then a.append b else b.append a)
  | alt first second =>
    match place with
    | .alone => match (alt first second).branches.mapM literal? with
      | some words => .states (wordsExtent (words.map (bytes direction)))
      | none => (first.layout direction .alone).append (second.layout direction .second)
    | place => (first.layout direction place).append (second.layout direction .later)

/-- Does every match stand at the end of the text from which a program starts to read? -/
def anchored (direction : Direction) : Expr → Bool
  | empty | literal _ | set _ _ => false
  | look condition => condition = if direction = .forward then .textStart else .textEnd
  | group _ body => body.anchored direction
  | rep least _ _ body => 0 < least && body.anchored direction
  | cat first second => match direction with
    | .forward => first.anchored direction || (first.zeroWidth && second.anchored direction)
    | .backward => second.anchored direction || (second.zeroWidth && first.anchored direction)
  | alt first second => first.anchored direction && second.anchored direction

/-- The states of the whole program: one that skips to a start, unless that is fixed, the
    expression as group 0, and an end. -/
def programLayout (direction : Direction) (e : Expr) : Layout :=
  let start := if e.anchored direction then Layout.fixed 1 0
    else .fixed 3 (2 * linkBytes + edgeBytes)
  start.append (((group 0 e).layout direction .alone).append (.fixed 1 0))

/-- The bytes of the program of an expression, or of a part of it that is too large already. -/
def programBytes (direction : Direction) (e : Expr) : Nat :=
  ((e.programLayout direction).extent direction ⟨0, 0⟩).bytes

/-- No program of the expression takes more bytes than this. A range of characters has at most 21
    byte sequences, and a sequence at most four states. -/
def bytesBound : Expr → Nat
  | empty | look _ => 32
  | literal text => 128 * Text.byteLength text + 64
  | set _ chars => 128 + 3000 * chars.ranges.length
  | group _ body => body.bytesBound + 64
  | rep least most _ body => max 1 (most.getD least) * (body.bytesBound + 40) + 192
  | cat first second => first.bytesBound + second.bytesBound
  | alt first second => first.bytesBound + second.bytesBound + 72

/-- Are both programs of the expression small enough? -/
def fits (e : Expr) : Bool :=
  e.bytesBound + 512 ≤ maxBytes ||
    (e.programBytes .forward ≤ maxBytes && e.programBytes .backward ≤ maxBytes)

end Expr

end ProgramOutline.Regex
