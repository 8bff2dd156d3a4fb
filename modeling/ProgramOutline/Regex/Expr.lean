import ProgramOutline.Text.Bytes
import ProgramOutline.Unicode.CharSet
import ProgramOutline.Regex.Look

/-!
# Regular expressions

The expressions a rule is made of, and constructors that keep them in a simple form: no empty
expression inside a sequence, neighbouring literals joined, one character set in place of an
alternation of single characters or of sets, a common start of all branches of an alternation
written once, and no repetition of a condition.

The form is part of the meaning. A sequence or an alternation prefers matches in the order its
parts are tried, so writing a common start once moves the choice between the branches behind it.
-/

namespace ProgramOutline.Regex

/-- A regular expression with numbered groups. -/
inductive Expr where
  /-- Matches the empty text. -/
  | empty
  /-- Matches the text. -/
  | literal (text : List Char)
  /-- Matches one character of the set, which is `narrow` if it was written without the `u` flag. -/
  | set (narrow : Bool) (chars : CharSet)
  /-- Matches the empty text where the condition holds. -/
  | look (condition : Look)
  /-- Matches as `body` does and remembers where. -/
  | group (index : Nat) (body : Expr)
  /-- Matches `body` from `least` to `most` times, as often as possible if `greedy`. -/
  | rep (least : Nat) (most : Option Nat) (greedy : Bool) (body : Expr)
  /-- Matches `first`, then `second`. -/
  | cat (first second : Expr)
  /-- Matches `first` or, failing that, `second`. -/
  | alt (first second : Expr)
  deriving DecidableEq

namespace Expr

/-! ## What an expression can match -/

/-- The fewest bytes that the expression matches. There is no such number if a part of it matches
    nothing at all. -/
def shortest : Expr → Option Nat
  | empty => some 0
  | literal text => some (Text.byteLength text)
  | set _ chars => chars.ranges.head?.map (fun r => Text.codeLength r.1)
  | look _ => some 0
  | group _ body => body.shortest
  | rep least _ _ body => body.shortest.map (· * least)
  | cat first second => do return (← first.shortest) + (← second.shortest)
  | alt first second => do return min (← first.shortest) (← second.shortest)

/-- Does every match of the expression take up text? -/
def consuming (e : Expr) : Bool := e.shortest.any (0 < ·)

/-- Does the expression match the empty text only? -/
def zeroWidth : Expr → Bool
  | empty | look _ => true
  | literal text => text.isEmpty
  | set _ _ => false
  | group _ body => body.zeroWidth
  | rep _ most _ body => most.isSome && body.zeroWidth
  | cat first second => first.zeroWidth && second.zeroWidth
  | alt first second => first.zeroWidth && second.zeroWidth

/-- The highest group number in the expression, or 0. -/
def groupCount : Expr → Nat
  | empty | literal _ | set _ _ | look _ => 0
  | group index body => max index body.groupCount
  | rep _ _ _ body => body.groupCount
  | cat first second => max first.groupCount second.groupCount
  | alt first second => max first.groupCount second.groupCount

/-! ## Sets -/

/-- One character of the set. A set of one character is a literal. -/
def ofSet (narrow : Bool) (chars : CharSet) : Expr :=
  match chars.ranges with
  | [] => set true .empty
  | [(lo, hi)] => if lo = hi then literal [Char.ofNat lo] else set narrow chars
  | _ => set narrow chars

/-- The characters of an expression that matches one character. -/
def charSet? : Expr → Option CharSet
  | literal [c] => some (.single c)
  | set _ chars => some chars
  | _ => none

/-! ## Sequences -/

/-- The parts of a sequence. -/
def items : Expr → List Expr
  | empty => []
  | cat first second => first.items ++ second.items
  | e => [e]

/-- A sequence of parts, none of which is a sequence or empty. -/
def ofItems : List Expr → Expr
  | [] => empty
  | [e] => e
  | e :: rest => cat e (ofItems rest)

/-- Puts a part in front of a sequence. Two literals become one. -/
def joinLiteral (e : Expr) (rest : List Expr) : List Expr :=
  match e, rest with
  | literal a, literal b :: rest => literal (a ++ b) :: rest
  | e, rest => e :: rest

/-- The expressions one after another. -/
def concat (parts : List Expr) : Expr := ofItems ((parts.flatMap items).foldr joinLiteral [])

/-! ## Alternations -/

/-- The branches of an alternation. -/
def branches : Expr → List Expr
  | alt first second => first.branches ++ second.branches
  | e => [e]

/-- An alternation of branches, none of which is an alternation. -/
def ofBranches : List Expr → Expr
  | [] => set true .empty
  | [e] => e
  | e :: rest => alt e (ofBranches rest)

/-- The character of a literal of one. -/
def char? : Expr → Option Char
  | literal [c] => some c
  | _ => none

/-- The set of an expression that is one. -/
def set? : Expr → Option CharSet
  | set _ chars => some chars
  | _ => none

/-- The alternation, as one set if all branches are characters or all are sets. -/
def merge (parts : List Expr) : Expr :=
  match parts with
  | [e] => e
  | parts => match parts.mapM char? with
    | some chars => ofSet false (.ofList chars)
    | none => match parts.mapM set? with
      | some sets => ofSet false (sets.foldl CharSet.union .empty)
      | none => ofBranches parts

/-- The longest common start of two lists. -/
def commonStart : List Expr → List Expr → List Expr
  | a :: as, b :: bs => if a = b then a :: commonStart as bs else []
  | _, _ => []

/-- The parts with which all branches begin, provided every branch is a sequence of two or more. -/
def sharedStart (parts : List (List Expr)) : List Expr :=
  match parts with
  | first :: rest => if parts.all (fun p => 2 ≤ p.length) then rest.foldl commonStart first else []
  | [] => []

/-- The first branch that matches. -/
def alternation (parts : List Expr) : Expr :=
  let flat := parts.flatMap branches
  match merge flat with
  | alt first second =>
    match sharedStart (flat.map items) with
    | [] => alt first second
    | shared =>
      let rests := flat.map (fun e => ofItems (e.items.drop shared.length))
      concat (shared ++ [merge (rests.flatMap branches)])
  | merged => merged

/-! ## Repetitions -/

/-- The expression repeated. A second turn of an expression without width adds nothing, so it is
    tried at most once. -/
def repetition (least : Nat) (most : Option Nat) (greedy : Bool) (body : Expr) : Expr :=
  let (least, most) :=
    if body.zeroWidth then (min least 1, some (min (most.getD 1) 1)) else (least, most)
  if most = some 0 then empty
  else if least = 1 && most = some 1 then body
  else rep least most greedy body

end Expr

end ProgramOutline.Regex
