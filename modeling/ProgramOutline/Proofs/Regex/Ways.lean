import Mathlib.Tactic
import ProgramOutline.Regex.Search

/-!
# The ways in which a plain tree matches

A tree without marks remembers nothing, so a search with it is the search for the first of several
ways to match, in the order of preference. `Tree.ways` lists them; a sequence takes each way of its
first part with each way of the second.

Results:
* `Tree.run_eq_tryAll`: running a plain tree tries its ways in turn.
* `Tree.matchFrom_of_plain`: the match of a plain tree at a position is its first way there.
-/

namespace ProgramOutline.Regex

/-- The positions at which a repetition of characters may be left, preferred one first. -/
def Cursor.stops (chars : CharSet) (greedy : Bool) (most : Option Nat) (before : Option Char)
    (offset : Nat) : List Char → List Cursor
  | [] => [⟨before, [], offset⟩]
  | c :: rest =>
    let here : Cursor := ⟨before, c :: rest, offset⟩
    if most != some 0 && chars.contains c then
      let more := stops chars greedy (most.map (· - 1)) (some c) (offset + c.utf8Size) rest
      if greedy then more ++ [here] else here :: more
    else [here]

namespace Tree

/-- Has the tree no marked choice? -/
def isPlain : Tree → Bool
  | empty | literal _ | set _ | look _ | whole _ _ => true
  | group _ body => body.isPlain
  | cat first second => first.isPlain && second.isPlain
  | alt mark first second => mark.isNone && first.isPlain && second.isPlain
  | many mark _ _ _ _ => mark.isNone
  | rep _ _ _ _ _ _ _ => false

/-- The ways in which a plain tree matches at a position, preferred one first. -/
def ways : Tree → Progress → List Progress
  | empty, p => [p]
  | literal text, p => ((p.cursor.follow? text).map (⟨·, p.groups⟩)).toList
  | set chars, p => ((p.cursor.step? chars).map (⟨·, p.groups⟩)).toList
  | look condition, p =>
    if condition.holds p.cursor.before p.cursor.after then [p] else []
  | group index body, p =>
    (body.ways p).map (fun q =>
      ⟨q.cursor, (index, ⟨p.cursor.offset, q.cursor.offset⟩) :: q.groups⟩)
  | cat first second, p => (first.ways p).flatMap second.ways
  | alt _ first second, p => first.ways p ++ second.ways p
  | whole chars least, p =>
    ((p.cursor.skip? chars least).map (fun cur =>
      ⟨.skipAll chars cur.before cur.offset cur.rest, p.groups⟩)).toList
  | many _ chars least most greedy, p =>
    (p.cursor.skip? chars least).toList.flatMap (fun cur =>
      (Cursor.stops chars greedy (most.map (· - least)) cur.before cur.offset cur.rest).map
        (⟨·, p.groups⟩))
  | rep _ _ _ _ _ _ _, _ => []

section Equations

variable (p : Progress) (text : List Char) (chars : CharSet) (condition : Look) (index least : Nat)
variable (mark : Option Nat) (most : Option Nat) (greedy : Bool) (body first second : Tree)

theorem ways_empty : empty.ways p = [p] := rfl

theorem ways_literal :
    (literal text).ways p = ((p.cursor.follow? text).map (⟨·, p.groups⟩)).toList := rfl

theorem ways_set : (set chars).ways p = ((p.cursor.step? chars).map (⟨·, p.groups⟩)).toList := rfl

theorem ways_look :
    (look condition).ways p =
      if condition.holds p.cursor.before p.cursor.after then [p] else [] := rfl

theorem ways_group :
    (group index body).ways p =
      (body.ways p).map (fun q =>
        ⟨q.cursor, (index, ⟨p.cursor.offset, q.cursor.offset⟩) :: q.groups⟩) := rfl

theorem ways_cat : (cat first second).ways p = (first.ways p).flatMap second.ways := rfl

theorem ways_alt : (alt mark first second).ways p = first.ways p ++ second.ways p := rfl

theorem ways_whole :
    (whole chars least).ways p =
      ((p.cursor.skip? chars least).map (fun cur =>
        ⟨.skipAll chars cur.before cur.offset cur.rest, p.groups⟩)).toList := rfl

theorem ways_many :
    (many mark chars least most greedy).ways p =
      (p.cursor.skip? chars least).toList.flatMap (fun cur =>
        (Cursor.stops chars greedy (most.map (· - least)) cur.before cur.offset cur.rest).map
          (⟨·, p.groups⟩)) := rfl

end Equations

end Tree

/-! ## Trying ways in turn -/

/-- Goes on from each position in turn until a match is found. -/
def tryAll (k : Continuation) : List Progress → Tried → Outcome
  | [], tried => .failed tried
  | q :: rest, tried => (k q tried).orElse (tryAll k rest)

theorem tryAll_cons (k : Continuation) (q : Progress) (rest : List Progress) (tried : Tried) :
    tryAll k (q :: rest) tried = (k q tried).orElse (tryAll k rest) := rfl

theorem Outcome.orElse_assoc (a : Outcome) (b c : Tried → Outcome) :
    (a.orElse b).orElse c = a.orElse (fun tried => (b tried).orElse c) := by
  cases a <;> rfl

theorem tryAll_singleton (k : Continuation) (p : Progress) (tried : Tried) :
    tryAll k [p] tried = k p tried := by
  rw [tryAll_cons]
  cases k p tried <;> rfl

theorem tryAll_append (k : Continuation) (ps qs : List Progress) (tried : Tried) :
    tryAll k (ps ++ qs) tried = (tryAll k ps tried).orElse (tryAll k qs) := by
  induction ps generalizing tried with
  | nil => rfl
  | cons p ps ih =>
    rw [List.cons_append, tryAll_cons, tryAll_cons, Outcome.orElse_assoc, ← funext ih]

theorem tryAll_map (k : Continuation) (f : Progress → Progress) (ps : List Progress)
    (tried : Tried) : tryAll k (ps.map f) tried = tryAll (fun p => k (f p)) ps tried := by
  induction ps generalizing tried with
  | nil => rfl
  | cons p ps ih =>
    rw [List.map_cons, tryAll_cons, tryAll_cons, funext ih]

theorem tryAll_flatMap (k : Continuation) (f : Progress → List Progress) (ps : List Progress)
    (tried : Tried) :
    tryAll k (ps.flatMap f) tried = tryAll (fun p => tryAll k (f p)) ps tried := by
  induction ps generalizing tried with
  | nil => rfl
  | cons p ps ih =>
    rw [List.flatMap_cons, tryAll_append, tryAll_cons, funext ih]

theorem takeChars_eq_tryAll (chars : CharSet) (k : Continuation) (groups : List (Nat × Span))
    (greedy : Bool) (most : Option Nat) (before : Option Char) (offset : Nat) (text : List Char)
    (tried : Tried) :
    takeChars chars (fun _ _ => false) (fun cur => k ⟨cur, groups⟩) greedy most before offset text
        tried =
      tryAll k ((Cursor.stops chars greedy most before offset text).map (⟨·, groups⟩)) tried := by
  induction text generalizing most before offset tried with
  | nil => simp [takeChars, Cursor.stops, tryAll_singleton]
  | cons c rest ih =>
    rw [takeChars, Cursor.stops]
    simp only [Bool.false_eq_true, if_false, ih]
    split
    · cases greedy with
      | true =>
        simp only [if_true, List.map_append, List.map_cons, List.map_nil, tryAll_append]
        congr 1
        funext tried
        rw [tryAll_singleton]
      | false => rfl
    · simp [tryAll_singleton]

/-! ## Plain trees -/

/-- Running a plain tree tries its ways in turn. -/
theorem Tree.run_eq_tryAll {t : Tree} (ht : t.isPlain) (size shift : Nat) (k : Continuation)
    (p : Progress) (tried : Tried) : t.run size shift k p tried = tryAll k (t.ways p) tried := by
  induction t generalizing k p tried with
  | empty => rw [Tree.run, ways_empty, tryAll_singleton]
  | literal text =>
    rw [Tree.run, ways_literal]
    cases p.cursor.follow? text with
    | none => rfl
    | some cur => exact (tryAll_singleton ..).symm
  | set chars =>
    rw [Tree.run, ways_set]
    cases p.cursor.step? chars with
    | none => rfl
    | some cur => exact (tryAll_singleton ..).symm
  | look condition =>
    rw [Tree.run, ways_look]
    split
    · exact (tryAll_singleton ..).symm
    · rfl
  | group index body ih => rw [Tree.run, ways_group, tryAll_map, ih ht]
  | cat first second ihf ihs =>
    obtain ⟨hf, hs⟩ := Bool.and_eq_true_iff.mp ht
    rw [Tree.run, ways_cat, ihf hf, tryAll_flatMap]
    congr 1
    funext q tried
    exact ihs hs ..
  | alt mark first second ihf ihs =>
    simp only [isPlain, Bool.and_eq_true, Option.isNone_iff_eq_none] at ht
    obtain ⟨⟨rfl, hf⟩, hs⟩ := ht
    rw [Tree.run, ways_alt, tryAll_append, ihf hf]
    congr 1
    funext tried
    exact ihs hs ..
  | whole chars least =>
    rw [Tree.run, ways_whole]
    cases p.cursor.skip? chars least with
    | none => rfl
    | some cur => exact (tryAll_singleton ..).symm
  | many mark chars least most greedy =>
    obtain rfl := Option.isNone_iff_eq_none.mp ht
    rw [Tree.run, ways_many]
    cases p.cursor.skip? chars least with
    | none => rfl
    | some cur =>
      dsimp only
      rw [takeChars_eq_tryAll, Option.toList_some, List.flatMap_singleton]
  | rep => cases ht

/-- The match of the first way at a position. -/
def Tree.first? (t : Tree) (cur : Cursor) : Option Match :=
  (t.ways ⟨cur, []⟩).head?.map (fun p => ⟨⟨cur.offset, p.cursor.offset⟩, p.groups⟩)

theorem Tree.matchFrom_of_plain {t : Tree} (ht : t.isPlain) (size : Nat) (window : Window)
    (tried : Tried) (cur : Cursor) :
    t.matchFrom size window tried cur =
      (if window.first ≤ cur.offset ∧ cur.offset ≤ window.last then t.first? cur else none,
        tried) := by
  have hmatch : t.matchAt size tried cur = (t.first? cur, tried) := by
    rw [matchAt, run_eq_tryAll ht, first?]
    cases t.ways ⟨cur, []⟩ <;> rfl
  unfold matchFrom
  split_ifs with h₁ h₂ h₂
  · simp at h₁
    omega
  · rfl
  · exact hmatch
  · simp at h₁
    omega

end ProgramOutline.Regex
