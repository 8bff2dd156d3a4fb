import ProgramOutline.Regex.Expr

/-!
# Search trees

A search tree says how an expression is searched for. Choices are tried in order, so the first match
found is the preferred one.

A search never takes the same marked choice twice at one position: the second visit could only go
around a loop without consuming anything, or fail as the first one did. So a search ends, and takes
time in proportion to the marks and the length of the text. Each copy of a repeated body has marks
of its own: those of the first copy are moved on by a fixed stride.

An expression is `straight` if it has few choices. Then its tree is `plain`: it has no marks, and
characters are taken all at once where what follows cannot go on with one of them. Of any other
expression it is known which characters its matches `need`, so that no match is looked for where
these do not follow.
-/

namespace ProgramOutline.Regex

/-- An expression ready to be searched for. -/
inductive Tree where
  | empty
  | literal (text : List Char)
  | set (chars : CharSet)
  | look (condition : Look)
  | group (index : Nat) (body : Tree)
  | cat (first second : Tree)
  /-- `first` or, failing that, `second`. -/
  | alt (mark : Option Nat) (first second : Tree)
  /-- All characters of the set that follow, which must be `least` or more. -/
  | whole (chars : CharSet) (least : Nat)
  /-- From `least` to `most` characters of the set. The end is one choice, with the mark, and the
      start another one, with the mark after it. -/
  | many (mark : Option Nat) (chars : CharSet) (least : Nat) (most : Option Nat) (greedy : Bool)
  /-- From `least` to `most` turns of `body`. The marks of each copy of the body are `stride` above
      those of the copy before it. -/
  | rep (mark stride : Nat) (least : Nat) (most : Option Nat) (greedy consuming : Bool)
    (body : Tree)
  deriving DecidableEq

namespace Tree

/-- A choice between `inner` and nothing. -/
def optional (mark : Option Nat) (greedy : Bool) (inner : Tree) : Tree :=
  if greedy then alt mark inner empty else alt mark empty inner

/-- A tree that is reached only through another marked choice at the same position. -/
def dropMark : Tree → Tree
  | alt _ first second => alt none first second
  | t => t

end Tree

/-! ## What follows -/

/-- What is known of the text that the rest of an expression matches. -/
structure Following where
  /-- The characters that it can begin with. -/
  chars : CharSet
  /-- Can it be empty? Then the rest matches at any position. -/
  mayEnd : Bool

namespace Following

/-- Nothing follows. -/
def nothing : Following := ⟨.empty, true⟩

/-- One of two things follows. -/
def either (a b : Following) : Following := ⟨a.chars.union b.chars, a.mayEnd || b.mayEnd⟩

/-- Does a repetition of the characters go on to the last one that follows, whatever comes then?
    It does so if the rest cannot begin with one of them: either the rest fails earlier, or it
    matches anywhere and the repetition takes what it can. -/
def settles (f : Following) (chars : CharSet) (greedy : Bool) : Bool :=
  chars.disjoint f.chars && (greedy || !f.mayEnd)

end Following

namespace Expr

/-- What is known of the text that the expression and something after it match. Before a condition
    nothing is known unless a character must come. -/
def starts (following : Unit → Option Following) : Expr → Option Following
  | empty => following ()
  | literal text => some ⟨CharSet.ofList (text.take 1), false⟩
  | set _ chars => some ⟨chars, false⟩
  | look _ => (following ()).filter (fun f => !f.mayEnd)
  | group _ body => body.starts following
  | rep least _ _ body =>
    if least = 0 then do return (← body.starts following).either (← following ())
    else body.starts following
  | cat first second => first.starts (fun _ => second.starts following)
  | alt first second => do return (← first.starts following).either (← second.starts following)

/-! ## Plain trees -/

/-- Is every repetition an option or settled by what follows? -/
def settled (following : Unit → Option Following) : Expr → Bool
  | empty | literal _ | set _ _ | look _ => true
  | group _ body => body.settled following
  | rep least most greedy body =>
    match body.charSet? with
    | some chars => most.isNone && (following ()).any (fun f => f.settles chars greedy)
    | none => least = 0 && most = some 1 && body.settled following
  | cat first second =>
    first.settled (fun _ => second.starts following) && second.settled following
  | alt first second => first.settled following && second.settled following

/-- The number of ways through the options and alternations of an expression. -/
def ways : Expr → Nat
  | empty | literal _ | set _ _ | look _ => 1
  | group _ body => body.ways
  | rep _ _ _ body => if body.charSet?.isSome then 1 else body.ways + 1
  | cat first second => first.ways * second.ways
  | alt first second => first.ways + second.ways

/-- Does every match start at the start of a line? -/
def startsLine : Expr → Bool
  | look .lineStart | look .textStart => true
  | cat first _ => first.startsLine
  | _ => false

/-- Is there so little to choose that no choice need be remembered? -/
def straight (e : Expr) : Bool :=
  e.startsLine && e.ways ≤ 8 && e.settled (fun _ => some .nothing)

/-! ## Characters that must occur -/

/-- Sets of which every match holds a character each, in this order. -/
def needs : Expr → List CharSet
  | empty | look _ | alt _ _ => []
  | literal text => text.map .single
  | set _ chars => [chars]
  | group _ body => body.needs
  | rep least _ _ body => if least = 0 then [] else body.needs
  | cat first second => first.needs ++ second.needs

/-! ## Marks -/

/-- The number of copies of its body that a repetition has. -/
def copies (least : Nat) (most : Option Nat) : Nat := max least (most.getD 1)

/-- The number of choices that a repetition has beside those in its body. -/
def choices (least : Nat) (most : Option Nat) : Nat :=
  match most with
  | some most => most - least
  | none => 2

/-- The tree of an expression with marks from `next` on, and the next free mark. -/
def number (next : Nat) : Expr → Tree × Nat
  | empty => (.empty, next)
  | literal text => (.literal text, next)
  | set _ chars => (.set chars, next)
  | look condition => (.look condition, next)
  | group index body =>
    let (inner, next) := body.number next
    (.group index inner, next)
  | cat first second =>
    let (a, next) := first.number next
    let (b, next) := second.number next
    (.cat a b, next)
  | alt first second =>
    let (a, next) := first.number next
    let (b, next) := second.number next
    (.alt (some next) a b.dropMark, next + 1)
  | rep least most greedy body =>
    match body.charSet? with
    | some chars => (.many (some next) chars least most greedy, next + 2)
    | none =>
      let (inner, after) := body.number next
      if least = 0 && most = some 1 then (.optional (some after) greedy inner, after + 1)
      else
        let stride := after - next
        let first := next + copies least most * stride
        (.rep first stride least most greedy body.consuming inner, first + choices least most)

/-- The tree of an expression without marks. Only a repetition of more than characters still has
    them. -/
def plainTree (following : Unit → Option Following) : Expr → Tree
  | empty => .empty
  | literal text => .literal text
  | set _ chars => .set chars
  | look condition => .look condition
  | group index body => .group index (body.plainTree following)
  | cat first second =>
    .cat (first.plainTree (fun _ => second.starts following)) (second.plainTree following)
  | alt first second => .alt none (first.plainTree following) (second.plainTree following)
  | rep least most greedy body =>
    match body.charSet? with
    | some chars =>
      if most.isNone && (following ()).any (fun f => f.settles chars greedy) then
        .whole chars least
      else .many none chars least most greedy
    | none =>
      if least = 0 && most = some 1 then .optional none greedy (body.plainTree following)
      else ((rep least most greedy body).number 0).1

/-- The plain search tree of a whole expression. -/
def plain (e : Expr) : Tree := e.plainTree (fun _ => some .nothing)

/-- The search tree of an expression. -/
def tree (e : Expr) : Tree := if e.straight then e.plain else (e.number 0).1

end Expr

end ProgramOutline.Regex
