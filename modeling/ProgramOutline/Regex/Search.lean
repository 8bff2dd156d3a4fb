import ProgramOutline.Regex.Cursor
import ProgramOutline.Regex.Tree
import ProgramOutline.Regex.Tried

/-!
# Searching a text

Matching walks a search tree with a continuation for what follows. `Tree.run` gives the first match
in the order of preference. On top of it stand the leftmost match from an offset on (`findFrom`)
and all successive matches in a window (`matchesAlong`).

No marked choice is taken twice at one offset, over all starting positions.
-/

namespace ProgramOutline.Regex

/-- A stretch of text between two byte offsets. -/
structure Span where
  start : Nat
  stop : Nat
  deriving DecidableEq, Inhabited

/-- Where a match has got to, and the groups passed so far, latest first. -/
structure Progress where
  cursor : Cursor
  groups : List (Nat × Span)

/-- How a search ends: with a match or without one, and with what was tried on the way. -/
inductive Outcome where
  | found (result : Progress) (tried : Tried)
  | failed (tried : Tried)

/-- What is to be done after a part has matched. -/
abbrev Continuation := Progress → Tried → Outcome

/-- The first outcome if it is a match, else the other one, told what has been tried. -/
def Outcome.orElse (first : Outcome) (second : Tried → Outcome) : Outcome :=
  match first with
  | found result tried => found result tried
  | failed tried => second tried

/-- Runs `action` unless the marked choice was tried at this offset before. -/
def once (mark offset : Nat) (action : Tried → Outcome) (tried : Tried) : Outcome :=
  if tried.has mark offset then .failed tried else action (tried.add mark offset)

/-- Goes in and, failing that, past; the other way round unless `greedy`. -/
def choose (greedy : Bool) (enter pass : Tried → Outcome) (tried : Tried) : Outcome :=
  if greedy then (enter tried).orElse pass else (pass tried).orElse enter

/-! ## Repeated characters -/

/-- Takes at most `most` characters of the set, as many as possible if `greedy`, and goes on with
    `leave`. Positions that are `known` are passed over; if there is no limit, the walk ends
    there. -/
def takeChars (chars : CharSet) (known : Nat → Tried → Bool) (leave : Cursor → Tried → Outcome)
    (greedy : Bool) (most : Option Nat) (before : Option Char) (offset : Nat) :
    List Char → Tried → Outcome
  | [], tried => if known offset tried then .failed tried else leave ⟨before, [], offset⟩ tried
  | c :: rest, tried =>
    let more (tried : Tried) := takeChars chars known leave greedy (most.map (· - 1)) (some c)
      (offset + c.utf8Size) rest tried
    let here := leave ⟨before, c :: rest, offset⟩
    if most != some 0 && chars.contains c then
      if known offset tried then if most.isSome then more tried else .failed tried
      else if greedy then (more tried).orElse here
      else (here tried).orElse more
    else if known offset tried then .failed tried
    else here tried

/-! ## Repeated parts -/

/-- A part of an expression in one of its copies, whose marks are moved on by the first number. -/
abbrev Part := Nat → Continuation → Progress → Tried → Outcome

/-- Takes a number of copies of a part and goes on with `k`. -/
def exactly (part : Part) (stride : Nat) (k : Continuation) : Nat → Nat → Continuation
  | 0, _ => k
  | count + 1, shift => part shift (exactly part stride k count (shift + stride))

/-- Takes at most a number of copies of a part, each one only after the one before, and goes on
    with `k`. The marks of the choices follow one another. -/
def atMost (part : Part) (stride : Nat) (greedy : Bool) (k : Continuation) :
    Nat → Nat → Nat → Continuation
  | 0, _, _ => k
  | count + 1, mark, shift => fun p =>
    once mark p.cursor.offset <|
      choose greedy (part shift (atMost part stride greedy k count (mark + 1) (shift + stride)) p)
        (k p)

/-- Takes turns of one copy of a part, at most `bound` of them, and goes on with `k`. -/
def turns (part : Continuation → Continuation) (mark : Nat) (greedy : Bool) (k : Continuation) :
    Nat → Continuation
  | 0 => fun _ tried => .failed tried
  | bound + 1 => fun p =>
    once mark p.cursor.offset <| choose greedy (part (turns part mark greedy k bound) p) (k p)

/-- Takes from `least` to `most` turns of a part. A repetition without end comes back to its last
    copy; if that may be empty, the first turn is a choice of its own. No two turns start at one
    offset, so `size` bounds their number. -/
def takeTurns (part : Part) (size mark stride least : Nat) (most : Option Nat)
    (greedy consuming : Bool) (shift : Nat) (k : Continuation) : Continuation :=
  match most with
  | some most =>
    exactly part stride
      (atMost part stride greedy k (most - least) (shift + mark) (shift + least * stride))
      least shift
  | none =>
    let last := part (shift + (least - 1) * stride)
    let more := turns last (shift + mark) greedy k (size + 1)
    if least = 0 && !consuming then fun p =>
      once (shift + mark + 1) p.cursor.offset <| choose greedy (last more p) (k p)
    else exactly part stride more least shift

/-! ## Trees -/

/-- Matches a tree at a position and goes on with `k`. All offsets of the text are below `size`. -/
def Tree.run (size : Nat) : Tree → Nat → Continuation → Progress → Tried → Outcome
  | empty, _, k, p, tried => k p tried
  | literal text, _, k, p, tried =>
    match p.cursor.follow? text with
    | some cur => k ⟨cur, p.groups⟩ tried
    | none => .failed tried
  | set chars, _, k, p, tried =>
    match p.cursor.step? chars with
    | some cur => k ⟨cur, p.groups⟩ tried
    | none => .failed tried
  | look condition, _, k, p, tried =>
    if condition.holds p.cursor.before p.cursor.after then k p tried else .failed tried
  | group index body, shift, k, p, tried =>
    body.run size shift
      (fun q => k ⟨q.cursor, (index, ⟨p.cursor.offset, q.cursor.offset⟩) :: q.groups⟩) p tried
  | cat first second, shift, k, p, tried =>
    first.run size shift (second.run size shift k) p tried
  | alt none first second, shift, k, p, tried =>
    (first.run size shift k p tried).orElse (second.run size shift k p)
  | alt (some mark) first second, shift, k, p, tried =>
    once (shift + mark) p.cursor.offset
      (fun tried => (first.run size shift k p tried).orElse (second.run size shift k p)) tried
  | whole chars least, _, k, p, tried =>
    match p.cursor.skip? chars least with
    | none => .failed tried
    | some cur => k ⟨.skipAll chars cur.before cur.offset cur.rest, p.groups⟩ tried
  | many mark chars least most greedy, shift, k, p, tried =>
    match p.cursor.skip? chars least with
    | none => .failed tried
    | some cur =>
      let leave (cur : Cursor) := k ⟨cur, p.groups⟩
      match mark with
      | none =>
        takeChars chars (fun _ _ => false) leave greedy (most.map (· - least)) cur.before
          cur.offset cur.rest tried
      | some mark =>
        let known (offset : Nat) (tried : Tried) := tried.has (shift + mark) offset
        let leave (cur : Cursor) := once (shift + mark) cur.offset (leave cur)
        let take := takeChars chars known leave greedy (most.map (· - least)) cur.before
          cur.offset cur.rest
        if most.isSome then once (shift + mark + 1) cur.offset take tried else take tried
  | rep mark stride least most greedy consuming body, shift, k, p, tried =>
    takeTurns (body.run size) size mark stride least most greedy consuming shift k p tried

/-- A match: its span and the spans of its groups, latest first. -/
structure Match where
  span : Span
  groups : List (Nat × Span)

namespace Match

/-- The span of a group that took part in the match. -/
def group? (m : Match) (index : Nat) : Option Span :=
  (m.groups.find? (fun g => g.1 == index)).map (·.2)

/-- Is nothing matched but the position itself? -/
def isEmpty (m : Match) : Bool := m.span.start == m.span.stop

end Match

/-- The preferred match that starts at a position, and what has been tried. -/
def Tree.matchAt (t : Tree) (size : Nat) (tried : Tried) (cur : Cursor) : Option Match × Tried :=
  match t.run size 0 .found ⟨cur, []⟩ tried with
  | .found p tried => (some ⟨⟨cur.offset, p.cursor.offset⟩, p.groups⟩, tried)
  | .failed tried => (none, tried)

/-- The offsets at which a match may start. -/
structure Window where
  first : Nat
  last : Nat

/-- The preferred match that starts at a position, unless that lies outside of the window. -/
@[inline]
def Tree.matchFrom (t : Tree) (size : Nat) (window : Window) (tried : Tried) (cur : Cursor) :
    Option Match × Tried :=
  if cur.offset < window.first || window.last < cur.offset then (none, tried)
  else t.matchAt size tried cur

/-- The first match in the window as a walk over the text. -/
def Tree.findAlong (t : Tree) (size : Nat) (window : Window) (tried : Tried)
    (before : Option Char) (offset : Nat) : List Char → Option Match
  | [] => (t.matchFrom size window tried ⟨before, [], offset⟩).1
  | c :: rest =>
    match t.matchFrom size window tried ⟨before, c :: rest, offset⟩ with
    | (some m, _) => some m
    | (none, tried) => findAlong t size window tried (some c) (offset + c.utf8Size) rest

/-- A number above all offsets of the text. -/
def offsetBound (text : List Char) : Nat := Text.byteLength text + 1

/-- The leftmost match that starts at byte offset `start` or later. -/
def Tree.findFrom (t : Tree) (text : List Char) (start : Nat) : Option Match :=
  let size := offsetBound text
  t.findAlong size ⟨start, size⟩ (.start size) none 0 text

/-- The matches in the window, as a walk over the text. A match that is empty and ends at `last`,
    where the match before it ended, is left out. -/
def Tree.matchesAlong (t : Tree) (size : Nat) (window : Window) (last : Option Nat)
    (tried : Tried) (before : Option Char) (offset : Nat) : List Char → List Match
  | [] =>
    match t.matchFrom size window tried ⟨before, [], offset⟩ with
    | (some m, _) => if m.isEmpty && last == some m.span.stop then [] else [m]
    | (none, _) => []
  | c :: rest =>
    let next := offset + c.utf8Size
    match t.matchFrom size window tried ⟨before, c :: rest, offset⟩ with
    | (some m, tried) =>
      let tried := tried.restart m.span.stop
      if m.isEmpty && last == some m.span.stop then
        matchesAlong t size window last tried (some c) next rest
      else
        m :: matchesAlong t size ⟨m.span.stop, window.last⟩ (some m.span.stop) tried (some c) next
          rest
    | (none, tried) => matchesAlong t size window last tried (some c) next rest

/-! ## Characters that must occur -/

/-- Of the sets in `needs`, last one first, those of which the text does not hold a character each
    in reverse order, and the length of the shortest end of the text that holds the others. -/
def unmet (needs : List CharSet) : List Char → List CharSet × Nat
  | [] => (needs, 0)
  | c :: rest =>
    match unmet needs rest with
    | ([], length) => ([], length)
    | (set :: others, length) =>
      (if set.contains c then others else set :: others, length + c.utf8Size)

/-- The last offset at which a match that needs a character of each set can start. -/
def lastStart? (needs : List CharSet) (text : List Char) : Option Nat :=
  match unmet needs.reverse text with
  | ([], length) => some (Text.byteLength text - length)
  | _ => none

end ProgramOutline.Regex
