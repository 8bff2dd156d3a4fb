import ProgramOutline.Regex.Escape

/-!
# Bracketed classes

A class in brackets is a union of characters, ranges, escapes, named ASCII classes and further
brackets. The operators `&&`, `--` and `~~` stand between unions and associate to the left. A
closing bracket that comes first is a member, and so are leading and trailing hyphens.
-/

namespace ProgramOutline.Regex

/-- The operators between the unions of a class. -/
inductive ClassOp where
  | intersection
  | difference
  | symmetricDifference

/-- The operator on sets. -/
def ClassOp.apply : ClassOp → CharSet → CharSet → CharSet
  | intersection => CharSet.inter
  | difference => CharSet.diff
  | symmetricDifference => CharSet.symmDiff

/-- A part of a class: its characters, and how deep it is nested. -/
structure ClassPart where
  set : CharSet
  depth : Nat

/-- The union that is being read inside of a pair of brackets. -/
structure ClassUnion where
  set : CharSet := .empty
  count : Nat := 0
  depth : Nat := 0

/-- A pair of brackets that is still open, with the left side of an operator if there is one. -/
structure OpenClass where
  negated : Bool
  union : ClassUnion
  left : Option (ClassOp × ClassPart)

namespace ClassUnion

/-- Adds a part to the union. -/
def add (u : ClassUnion) (set : CharSet) (depth : Nat) : ClassUnion :=
  ⟨u.set.union set, u.count + 1, max u.depth depth⟩

/-- The union as a part. A union of two or more parts is one level deeper than they are. -/
def part (u : ClassUnion) : ClassPart := ⟨u.set, if 2 ≤ u.count then u.depth + 1 else u.depth⟩

end ClassUnion

namespace OpenClass

/-- The value of what has been read, with a pending operator applied. -/
def value (flags : Flags) (open' : OpenClass) : ClassPart :=
  let right := open'.union.part
  match open'.left with
  | none => right
  | some (op, left) =>
    ⟨op.apply (flags.closeCase left.set) (flags.closeCase right.set),
      max left.depth right.depth + 1⟩

/-- The class when its bracket closes. -/
def close? (flags : Flags) (open' : OpenClass) : Option ClassPart := do
  let inner := open'.value flags
  return ⟨← flags.negate? open'.negated (flags.closeCase inner.set), inner.depth + 1⟩

/-- Adds a part to the union that is being read. -/
def add (open' : OpenClass) (set : CharSet) (depth : Nat) : OpenClass :=
  { open' with union := open'.union.add set depth }

end OpenClass

/-- The characters of a named ASCII class. -/
def asciiClass? (name : String) : Option CharSet :=
  match name with
  | "alnum" => some ⟨[(0x30, 0x39), (0x41, 0x5A), (0x61, 0x7A)]⟩
  | "alpha" => some ⟨[(0x41, 0x5A), (0x61, 0x7A)]⟩
  | "ascii" => some ⟨[(0, 0x7F)]⟩
  | "blank" => some ⟨[(9, 9), (32, 32)]⟩
  | "cntrl" => some ⟨[(0, 0x1F), (0x7F, 0x7F)]⟩
  | "digit" => some ⟨[(0x30, 0x39)]⟩
  | "graph" => some ⟨[(0x21, 0x7E)]⟩
  | "lower" => some ⟨[(0x61, 0x7A)]⟩
  | "print" => some ⟨[(0x20, 0x7E)]⟩
  | "punct" => some ⟨[(0x21, 0x2F), (0x3A, 0x40), (0x5B, 0x60), (0x7B, 0x7E)]⟩
  | "space" => some ⟨[(9, 13), (32, 32)]⟩
  | "upper" => some ⟨[(0x41, 0x5A)]⟩
  | "word" => some Unicode.asciiWord
  | "xdigit" => some ⟨[(0x30, 0x39), (0x41, 0x46), (0x61, 0x66)]⟩
  | _ => none

/-- Reads `[:name:]` or `[:^name:]` after its opening bracket: the set, whether it is negated, and
    the rest. -/
def namedClass? (text : List Char) : Option (CharSet × Bool × List Char) :=
  match text with
  | ':' :: rest =>
    let (negated, rest) := match rest with
      | '^' :: rest => (true, rest)
      | rest => (false, rest)
    match rest.dropWhile (· ≠ ':') with
    | ':' :: ']' :: after =>
      (asciiClass? (String.ofList (rest.takeWhile (· ≠ ':')))).map
        (fun set => (set, negated, after))
    | _ => none
  | _ => none

/-- Reads leading hyphens as members. -/
def leadingHyphens (flags : Flags) (union : ClassUnion) : Nat → List Char → ClassUnion × List Char
  | fuel + 1, '-' :: rest =>
    leadingHyphens flags (union.add (.single '-') 0) fuel (flags.skip rest)
  | _, text => (union, text)

/-- Reads what may only stand right after an opening bracket: a caret, hyphens, and a closing
    bracket that is a member. -/
def openClass (flags : Flags) (text : List Char) : OpenClass × List Char :=
  let text := flags.skip text
  let (negated, text) := match text with
    | '^' :: rest => (true, flags.skip rest)
    | text => (false, text)
  match leadingHyphens flags {} text.length text with
  | (union, ']' :: rest) =>
    if union.count = 0 then (⟨negated, union.add (.single ']') 0, none⟩, flags.skip rest)
    else (⟨negated, union, none⟩, ']' :: rest)
  | (union, text) => (⟨negated, union, none⟩, text)

/-- Reads one member: an escape or a character. -/
def classAtom (flags : Flags) (text : List Char) : Option (Atom × List Char) :=
  match text with
  | [] => none
  | '\\' :: rest => escape flags rest
  | c :: rest => some (.char c false, rest)

/-- A literal as a member of a class: any character or, without the `u` flag, an ASCII one. -/
def classChar? (flags : Flags) : Atom → Option Char
  | .char c _ => if flags.unicode || c.toNat < 128 then some c else none
  | _ => none

/-- The next character that counts after a hyphen. -/
def peek (flags : Flags) (text : List Char) : Option Char :=
  if flags.extended then
    match text.dropWhile Text.isBlank with
    | [] => text.head?
    | '#' :: rest => match rest.dropWhile Text.isBlank with
      | [] => text.head?
      | c :: _ => some c
    | c :: _ => some c
  else text.head?

/-- Reads a member or a range. -/
def classRange (flags : Flags) (text : List Char) : Option (CharSet × List Char) := do
  let (low, rest) ← classAtom flags text
  match flags.skip rest with
  | [] => none
  | '-' :: after =>
    if peek flags after = some ']' || peek flags after = some '-' then
      return (← member low, '-' :: after)
    else
      let (high, rest) ← classAtom flags (flags.skip after)
      let a ← classChar? flags low
      let b ← classChar? flags high
      if a ≤ b then return (.range a b, rest) else none
  | rest => return (← member low, rest)
where
  /-- The set of a member. -/
  member : Atom → Option CharSet
    | .chars set => some set
    | .look _ => none
    | atom => (classChar? flags atom).map .single

/-- Reads a class from after its first bracket to its last one. Each turn reads at least one
    character, so the length of the text bounds the turns. -/
def readClass (flags : Flags) : Nat → OpenClass → List OpenClass → List Char →
    Option (ClassPart × List Char)
  | 0, _, _, _ => none
  | fuel + 1, current, outer, text =>
    match flags.skip text with
    | [] => none
    | '[' :: rest =>
      match namedClass? rest with
      | some (set, negated, after) => do
        let set ← flags.negate? negated (flags.closeCase set)
        readClass flags fuel (current.add set 0) outer after
      | none =>
        let (inner, after) := openClass flags rest
        readClass flags fuel inner (current :: outer) after
    | ']' :: rest => do
      let part ← current.close? flags
      match outer with
      | [] => return (part, rest)
      | enclosing :: outer => readClass flags fuel (enclosing.add part.set part.depth) outer rest
    | '&' :: '&' :: rest => readClass flags fuel (operator .intersection current) outer rest
    | '-' :: '-' :: rest => readClass flags fuel (operator .difference current) outer rest
    | '~' :: '~' :: rest => readClass flags fuel (operator .symmetricDifference current) outer rest
    | text => do
      let (set, rest) ← classRange flags text
      readClass flags fuel (current.add set 0) outer rest
where
  /-- Puts what has been read on the left of an operator. -/
  operator (op : ClassOp) (current : OpenClass) : OpenClass :=
    { current with union := {}, left := some (op, current.value flags) }

/-- Reads a bracketed class after its opening bracket. -/
def brackets (flags : Flags) (text : List Char) : Option (ClassPart × List Char) :=
  let (first, rest) := openClass flags text
  readClass flags (text.length + 1) first [] rest

end ProgramOutline.Regex
