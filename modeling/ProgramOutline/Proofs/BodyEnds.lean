import ProgramOutline.Proofs.Grammar.LetterCase
import ProgramOutline.Proofs.Separation

/-!
# Where a body ends

The end of a body is looked for with a pattern, from the end of the header on. It is the end of the
first line from there on that starts with the word `return`, which can be told by looking at the
starts of the lines one after the other.

Results:
* `LineReader.head?_scan`: a scan first finds what can be read at the earliest line start.
* `endsFunction_iff`: a return line by its first six characters and the one after them.
* `lineStop_append`: a line ends after the next line feed.
* `findBody_eq_bodyByLines?`: the body of a function, line start by line start.
-/

namespace ProgramOutline

open Regex Grammar Unicode

/-! ## The first item of a scan -/

/-- The line starts of a text that starts at `offset`, itself among them if it starts a line. -/
def Text.lineStartsFrom (lineStart : Bool) (offset : Nat) (text : List Char) : List Nat :=
  (if lineStart then [offset] else []) ++ lineStarts offset text

theorem Text.lineStartsFrom_cons (lineStart : Bool) (offset : Nat) (c : Char) (rest : List Char) :
    lineStartsFrom lineStart offset (c :: rest) =
      (if lineStart then [offset] else []) ++
        lineStartsFrom (c == '\n') (offset + c.utf8Size) rest := by
  rw [lineStartsFrom, lineStartsFrom, lineStarts_cons]
  by_cases hc : c = '\n' <;> simp [hc]

theorem Text.le_of_mem_lineStartsFrom {lineStart : Bool} {offset n : Nat} {text : List Char}
    (h : n ∈ lineStartsFrom lineStart offset text) : offset ≤ n := by
  rcases List.mem_append.mp h with h | h
  · split at h
    · exact (List.mem_singleton.mp h).ge
    · cases h
  · exact (lt_of_mem_lineStarts h).le

theorem findSome?_congr {α β : Type} {f g : α → Option β} {items : List α}
    (h : ∀ item ∈ items, f item = g item) : items.findSome? f = items.findSome? g := by
  induction items with
  | nil => rfl
  | cons item items ih =>
    rw [List.findSome?_cons, List.findSome?_cons, h item (by simp),
      ih (fun other hother => h other (by simp [hother]))]

namespace LineReader

variable {α : Type} (r : LineReader α)

/-- What is read at a line start of the text, if that is not before `position`. -/
def readAt? (position offset : Nat) (text : List Char) (p : Nat) : Option (Nat × α) :=
  if position ≤ p then
    (r.read? (Text.dropBytes (p - offset) text)).map (fun found => (p, found.1))
  else none

theorem readAt?_nil (position offset p : Nat) : r.readAt? position offset [] p = none := by
  have hnil : Text.dropBytes (p - offset) [] = [] := by cases p - offset <;> rfl
  rw [readAt?, hnil, r.read?_nil, Option.map_none, ite_self]

variable {position offset : Nat}

theorem readAt?_append {a b : List Char} {p : Nat} (h : offset + Text.byteLength a ≤ p) :
    r.readAt? position offset (a ++ b) p = r.readAt? position (offset + Text.byteLength a) b p := by
  obtain ⟨n, rfl⟩ := Nat.exists_eq_add_of_le h
  have hfar : offset + Text.byteLength a + n - offset = Text.byteLength a + n := by omega
  rw [readAt?, readAt?, hfar, Nat.add_sub_cancel_left, Text.dropBytes_append]

theorem readAt?_cons {c : Char} {rest : List Char} {p : Nat} (h : offset + c.utf8Size ≤ p) :
    r.readAt? position offset (c :: rest) p = r.readAt? position (offset + c.utf8Size) rest p :=
  r.readAt?_append (a := [c]) h

theorem readAt?_of_read {text rest : List Char} {item : α} (hpos : position ≤ offset)
    (h : r.read? text = some (item, rest)) :
    r.readAt? position offset text offset = some (offset, item) := by
  rw [readAt?, if_pos hpos, Nat.sub_self, Text.dropBytes_zero, h]
  rfl

theorem readAt?_of_passes {lineStart : Bool} {text : List Char}
    (h : r.Passes position lineStart offset text) {p : Nat}
    (hp : p ∈ if lineStart then [offset] else []) : r.readAt? position offset text p = none := by
  split at hp
  · rename_i hline
    obtain rfl := List.mem_singleton.mp hp
    rw [readAt?, Nat.sub_self, Text.dropBytes_zero]
    split
    · rename_i hle
      rw [h hline hle, Option.map_none]
    · rfl
  · cases hp

/-- A scan first finds what can be read at the earliest line start, if not before `position`. -/
theorem head?_scan (position : Nat) (lineStart : Bool) (offset : Nat) (text : List Char) :
    (r.scan position lineStart offset text).head? =
      (Text.lineStartsFrom lineStart offset text).findSome?
        (r.readAt? position offset text) := by
  induction text generalizing lineStart offset with
  | nil =>
    rw [r.scan_nil (fun _ _ => r.read?_nil), eq_comm]
    exact List.findSome?_eq_none_iff.mpr (fun p _ => r.readAt?_nil position offset p)
  | cons c rest ih =>
    -- the starts of the later lines, seen from the next character
    have hlater : (Text.lineStartsFrom (c == '\n') (offset + c.utf8Size) rest).findSome?
          (r.readAt? position offset (c :: rest)) =
        (r.scan position (c == '\n') (offset + c.utf8Size) rest).head? := by
      rw [ih]
      apply findSome?_congr
      intro p hp
      exact r.readAt?_cons (Text.le_of_mem_lineStartsFrom hp)
    rw [Text.lineStartsFrom_cons, List.findSome?_append, hlater]
    rcases r.read_or_passes position lineStart offset (c :: rest) with
      ⟨rfl, hpos, item, rest', hread⟩ | hpass
    · rw [r.scan_of_read hpos hread]
      simp [r.readAt?_of_read hpos hread]
    · have hnone : (if lineStart then [offset] else []).findSome?
          (r.readAt? position offset (c :: rest)) = none :=
        List.findSome?_eq_none_iff.mpr (fun p hp => r.readAt?_of_passes hpass hp)
      rw [r.scan_cons hpass, hnone, Option.none_or]

end LineReader

/-! ## Lines that end a function -/

/-- Does a line that starts with this text end a function? It starts with the word `return` in some
    case of ASCII letters, and the word does not go on. -/
def endsFunction (text : List Char) : Bool :=
  Text.equalIgnoringCase (text.take 6) "return".toList && !(text.drop 6).head?.any isWord

theorem returnWord_plain : ∀ k ∈ returnWord, IsPlainLetter k := by
  have hall : returnWord.all (fun k => decide (IsPlainLetter k)) = true := by decide
  exact fun k hk => of_decide_eq_true (List.all_eq_true.mp hall k hk)

/-- Such a line is what the grammar of return lines reads. -/
theorem endsFunction_iff (text : List Char) :
    endsFunction text = (returnLine? text).isSome := by
  have hlower : Text.equalIgnoringCase (text.take 6) returnWord =
      Text.equalIgnoringCase (text.take 6) "return".toList := by
    rw [Bool.eq_iff_iff, Text.equalIgnoringCase_iff, Text.equalIgnoringCase_iff]
    have hword : Text.lower returnWord = Text.lower "return".toList := by decide
    rw [hword]
  have hlength : returnWord.length = 6 := rfl
  simp only [endsFunction, returnLine?, Option.bind_eq_bind, word?_plain returnWord_plain, hlength,
    hlower]
  rcases Text.equalIgnoringCase (text.take 6) "return".toList with - | -
  · rfl
  · rw [if_pos rfl, Option.bind_some, Bool.true_and]
    dsimp only
    cases (text.drop 6).head?.any isWord <;> rfl

/-! ## Ends of lines -/

/-- The end of the line that holds an offset: just after its line feed, or the end of the text. -/
def lineStop (text : List Char) (offset : Nat) : Nat :=
  ((Text.lineStarts 0 text).find? (offset < ·)).getD (Text.byteLength text)

theorem Text.lineStarts_append (offset : Nat) (a b : List Char) :
    lineStarts offset (a ++ b) = lineStarts offset a ++ lineStarts (offset + byteLength a) b := by
  induction a generalizing offset with
  | nil => rfl
  | cons c a ih =>
    simp only [List.cons_append, lineStarts_cons, ih, byteLength_cons, Nat.add_assoc]
    split <;> simp

theorem head?_lineStarts (offset : Nat) (text : List Char) :
    (Text.lineStarts offset text).head?.getD (offset + Text.byteLength text) =
      offset + Text.byteLength (lineTail text) := by
  induction text generalizing offset with
  | nil => rfl
  | cons c rest ih =>
    rw [Text.lineStarts_cons]
    by_cases hc : c = '\n'
    · simp [hc, lineTail]
    · have htail : lineTail (c :: rest) = c :: lineTail rest := by simp [lineTail, hc]
      rw [htail, Text.byteLength_cons, Text.byteLength_cons, ← Nat.add_assoc, ← Nat.add_assoc, ← ih]
      simp [hc]

/-- A line ends after the next line feed. -/
theorem lineStop_append (before rest : List Char) :
    lineStop (before ++ rest) (Text.byteLength before) =
      Text.byteLength before + Text.byteLength (lineTail rest) := by
  have hbefore : (Text.lineStarts 0 before).find? (Text.byteLength before < ·) = none := by
    apply List.find?_eq_none.mpr
    intro n hn
    have := Text.le_of_mem_lineStarts hn
    simp only [decide_eq_true_eq]
    omega
  have hrest : (Text.lineStarts (Text.byteLength before) rest).find? (Text.byteLength before < ·) =
      (Text.lineStarts (Text.byteLength before) rest).head? := by
    rcases hstarts : Text.lineStarts (Text.byteLength before) rest with - | ⟨n, later⟩
    · rfl
    · have hmem : n ∈ Text.lineStarts (Text.byteLength before) rest := by simp [hstarts]
      have hlt : Text.byteLength before < n := Text.lt_of_mem_lineStarts hmem
      simp [hlt]
  rw [lineStop, Text.lineStarts_append, List.find?_append, hbefore, Nat.zero_add, Option.none_or,
    hrest, Text.byteLength_append, head?_lineStarts]

/-! ## Bodies -/

/-- The first line start from `start` on at which a line that ends a function starts. -/
def firstEnd? (text : List Char) (start : Nat) : Option Nat :=
  (0 :: Text.lineStarts 0 text).find? (fun p =>
    start ≤ p && endsFunction (Text.dropBytes p text))

/-- The body of a function by its line starts. It ends with the first line that ends a function. -/
def bodyByLines? (text : List Char) (start headerStop : Nat) (limit : Option Nat) :
    Option BodySpan :=
  if Text.byteLength text < headerStop ∨ headerStop < start then none
  else
    match firstEnd? text headerStop with
    | none => none
    | some p =>
      if limit.any (· ≤ p) then none else some ⟨start, headerStop, lineStop text p⟩

/-- The first return line starts at the first line start at which a line ends a function. -/
theorem firstEnd?_eq (text : List Char) (start : Nat) :
    firstEnd? text start = (firstReturn? text start).map (·.1) := by
  have hstarts : 0 :: Text.lineStarts 0 text = Text.lineStartsFrom true 0 text := rfl
  rw [firstEnd?, firstReturn?, LineReader.head?_scan, hstarts]
  generalize Text.lineStartsFrom true 0 text = starts
  induction starts with
  | nil => rfl
  | cons p starts ih =>
    rw [List.find?_cons, List.findSome?_cons, endsFunction_iff, LineReader.readAt?, Nat.sub_zero,
      ih]
    by_cases hp : start ≤ p
    · have hread : ReturnLine.reader.read? (Text.dropBytes p text) =
          returnLine? (Text.dropBytes p text) := rfl
      rw [hread]
      cases returnLine? (Text.dropBytes p text) <;> simp [hp]
    · simp [hp]

/-- A return line goes to the end of its line. -/
theorem stop_firstReturn? {text : List Char} {start offset : Nat} {line : ReturnLine}
    (h : firstReturn? text start = some (offset, line)) :
    offset + Text.byteLength line.text = lineStop text offset := by
  obtain ⟨before, rest, htext, rfl, hread, -⟩ := firstReturn?_eq_some h
  rw [text_eq_lineTail hread, htext, List.append_assoc, lineStop_append]

/-- **The end of a body.** For all offsets the search with the pattern for return lines gives what
    looking at the line starts in order gives. -/
theorem findBody_eq_bodyByLines? (text : List Char) (start headerStop : Nat) (limit : Option Nat) :
    findBody text start headerStop limit = bodyByLines? text start headerStop limit := by
  rw [findBody, bodyByLines?, findFrom_returnLine, firstEnd?_eq]
  split
  · rfl
  · rcases hfirst : firstReturn? text headerStop with - | ⟨offset, line⟩
    · rfl
    · have hspan : (line.toMatch offset).span =
          ⟨offset, offset + Text.byteLength line.text⟩ := rfl
      simp only [Option.map_some, hspan, stop_firstReturn? hfirst]

/-- A word that goes on, an indent and a line before the header do not end a body; the last line
    does without a line feed. -/
example : bodyByLines? "Return\nReturned\n return\nRETURN".toList 7 8 none = some ⟨7, 8, 30⟩ := by
  decide +kernel

end ProgramOutline
