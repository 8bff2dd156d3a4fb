import ProgramOutline.Proofs.Grammar.Trees
import ProgramOutline.Proofs.Regex.LineMatches

/-!
# Lines that end a function

A return line starts with the word `Return`, without an indent, and goes to the end of its line.

Results:
* `ReturnLine.reader`: return lines as items of a scan.
* `ReturnLine.tree_reads`: the search tree matches at a line start exactly the return line there.
* `findFrom_returnLine`: the search for the end of a body is a scan for return lines.
* `firstReturn?_split`: the line that it finds is a stretch of the text.
-/

namespace ProgramOutline.Grammar

open Regex Unicode

/-- The word that a return line starts with. -/
def returnWord : List Char := "Return".toList

theorem returnWord_letters : ∀ k ∈ returnWord, IsLetter k := isLetter_of_all (by decide)

theorem contains_notBreak : (allBut 10).contains = (fun c => c != '\n') :=
  contains_allBut (by decide : 0 < '\n'.toNat)

/-- A return line: the word and what follows it, the line feed included if there is one. -/
structure ReturnLine where
  word : List Char
  tail : List Char

namespace ReturnLine

/-- The text of a return line. -/
def text (line : ReturnLine) : List Char := line.word ++ line.tail

/-- The match for a return line that starts at `offset`. -/
def toMatch (offset : Nat) (line : ReturnLine) : Match :=
  ⟨⟨offset, offset + Text.byteLength line.text⟩, []⟩

end ReturnLine

/-- What is left of the first line of a text, with its line feed. -/
def lineTail (text : List Char) : List Char :=
  text.takeWhile (· != '\n') ++ (text.dropWhile (· != '\n')).take 1

/-- What follows the first line of a text. -/
def afterLine (text : List Char) : List Char := (text.dropWhile (· != '\n')).drop 1

theorem lineTail_append_afterLine (text : List Char) : lineTail text ++ afterLine text = text := by
  rw [lineTail, afterLine, List.append_assoc, List.take_append_drop,
    List.takeWhile_append_dropWhile]

/-- Reads a return line. The word must not go on. What follows the word is not taken, as the next
    line may be an item of its own. -/
def returnLine? (text : List Char) : Option (ReturnLine × List Char) := do
  let (word, rest) ← word? returnWord text
  if rest.head?.any isWord then none else return (⟨word, lineTail rest⟩, rest)

theorem returnLine?_eq_some {text rest : List Char} {line : ReturnLine}
    (h : returnLine? text = some (line, rest)) :
    word? returnWord text = some (line.word, rest) ∧ rest.head?.any isWord = false ∧
      line.tail = lineTail rest := by
  simp only [returnLine?, Option.bind_eq_bind, Option.bind_eq_some_iff, Option.pure_def,
    Option.ite_none_left_eq_some, Option.some.injEq, Prod.mk.injEq, Prod.exists] at h
  obtain ⟨word, rest, hword, hedge, rfl, rfl⟩ := h
  exact ⟨hword, by simpa using hedge, rfl⟩

/-- Return lines as items of a scan, which take up the word. -/
def ReturnLine.reader : LineReader ReturnLine where
  read? := returnLine?
  taken := ReturnLine.word
  split h := word?_split (returnLine?_eq_some h).1
  inLine {text line rest} h := by
    obtain ⟨hword, -⟩ := returnLine?_eq_some h
    have hne : line.word ≠ [] := ne_nil_of_word? (by decide : returnWord ≠ []) hword
    refine ⟨line.word.getLast hne, List.getLast?_eq_some_getLast hne, ?_⟩
    intro hbreak
    have hblank := isBlank_of_word? returnWord_letters hword (List.getLast_mem hne)
    rw [hbreak] at hblank
    exact absurd hblank (by decide)

/-! ## The tree -/

/-- The tree of the end of a line. -/
def lineEndTree : Tree := .alt none (.literal ['\n']) (.look .textEnd)

/-- The tree of the rest of a line. -/
def lineTailTree : Tree := .cat (.many none (allBut 10) 0 none true) lineEndTree

/-- The tree of a return line. -/
def ReturnLine.tree : Tree :=
  .cat (.look .lineStart) <| wordThen returnWord <|
    .cat (.look (.word .boundary false)) lineTailTree

theorem plain_returnLine : Regex.returnLine.plain = ReturnLine.tree := by decide

/-- A greedy repetition without limit is left at the last character of the set first. -/
theorem stops_greedy (chars : CharSet) (before : Option Char) (offset : Nat) (text : List Char) :
    ∃ more, Cursor.stops chars true none before offset text =
      Cursor.move ⟨before, text, offset⟩ (text.takeWhile chars.contains)
        (text.dropWhile chars.contains) :: more := by
  induction text generalizing before offset with
  | nil => exact ⟨[], rfl⟩
  | cons c rest ih =>
    by_cases hc : chars.contains c = true
    · obtain ⟨more, hmore⟩ := ih (some c) (offset + c.utf8Size)
      refine ⟨more ++ [⟨before, c :: rest, offset⟩], ?_⟩
      rw [List.takeWhile_cons_of_pos hc, List.dropWhile_cons_of_pos hc]
      simp [Cursor.stops, hc, hmore, Cursor.move, List.getLast?_cons, Nat.add_assoc]
    · refine ⟨[], ?_⟩
      rw [List.takeWhile_cons_of_neg hc, List.dropWhile_cons_of_neg hc]
      simp [Cursor.stops, hc, Cursor.move]

theorem ways_lineEndTree {p : Progress} (h : ∀ c ∈ p.cursor.rest.head?, c = '\n') :
    lineEndTree.ways p = [moved p (p.cursor.rest.take 1, p.cursor.rest.drop 1)] := by
  rw [lineEndTree, Tree.ways_alt, ways_sign, Tree.ways_look, Cursor.after]
  cases hrest : p.cursor.rest with
  | nil =>
    have hstay : moved p ([], p.cursor.rest) = p := rfl
    rw [hrest] at hstay
    simp [sign?, Look.holds, hstay]
  | cons c rest =>
    obtain rfl : c = '\n' := h c (by simp [hrest])
    simp [sign?, Look.holds]

theorem head_dropWhile_break (text : List Char) :
    ∀ c ∈ (text.dropWhile (· != '\n')).head?, c = '\n' := by
  intro c hc
  have hstop := List.head?_dropWhile_not (· != '\n') text
  rw [Option.mem_def.mp hc] at hstop
  simpa using hstop

theorem head?_ways_lineTailTree (p : Progress) :
    (lineTailTree.ways p).head? =
      some (moved p (lineTail p.cursor.rest, afterLine p.cursor.rest)) := by
  obtain ⟨more, hmore⟩ := stops_greedy (allBut 10) p.cursor.before p.cursor.offset p.cursor.rest
  have hways : (Tree.many none (allBut 10) 0 none true).ways p =
      moved p (p.cursor.rest.takeWhile (· != '\n'), p.cursor.rest.dropWhile (· != '\n')) ::
        more.map (⟨·, p.groups⟩) := by
    rw [Tree.ways_many, Cursor.skip?, Option.toList_some, List.flatMap_singleton, Option.map_none,
      hmore, contains_notBreak]
    rfl
  rw [lineTailTree, Tree.ways_cat, hways, List.flatMap_cons, ways_lineEndTree]
  · simp [lineTail, afterLine, moved]
  · rw [moved_cursor, Cursor.move_rest]
    exact head_dropWhile_break p.cursor.rest

/-- After the word a boundary is where the word does not go on. -/
theorem boundary_of_word? {cur : Cursor} {taken rest : List Char}
    (h : word? returnWord cur.rest = some (taken, rest)) :
    (Look.word .boundary false).holds (cur.move taken rest).before (cur.move taken rest).after =
      !rest.head?.any isWord := by
  have hne : taken ≠ [] := ne_nil_of_word? (by decide : returnWord ≠ []) h
  have hlast : isWord (taken.getLast hne) = true := by
    obtain ⟨k, hk, hsame⟩ := exists_sameCase_of_word? h (List.getLast_mem hne)
    exact isWord_of_sameCase (returnWord_letters k hk) hsame
  have hbefore : (cur.move taken rest).before = some (taken.getLast hne) := by
    rw [Cursor.move, List.getLast?_eq_some_getLast hne, Option.some_or]
  have hafter : (cur.move taken rest).after = rest.head? := rfl
  rw [hbefore, hafter, Look.holds, WordEdge.holds]
  simp [hlast]

/-- The tree matches at a line start exactly the return line there. -/
theorem ReturnLine.tree_reads :
    ReturnLine.tree.Reads ReturnLine.reader ReturnLine.toMatch := by
  apply Tree.reads_of_first (by decide)
  intro cur
  rw [Tree.first?, ways_wordThen returnWord_letters]
  simp only [ReturnLine.reader, returnLine?, Option.bind_eq_bind]
  rcases hword : word? returnWord cur.rest with - | ⟨taken, rest⟩
  · rfl
  rw [Option.toList_some, List.flatMap_singleton, Tree.ways_cat, Tree.ways_look, moved_cursor,
    boundary_of_word? hword, Option.bind_some]
  by_cases hedge : rest.head?.any isWord = true
  · simp [hedge]
  · simp [hedge, head?_ways_lineTailTree, ReturnLine.toMatch, ReturnLine.text]

/-! ## The first return line -/

/-- The first return line that starts at `start` or later, with its offset. -/
def firstReturn? (text : List Char) (start : Nat) : Option (Nat × ReturnLine) :=
  (ReturnLine.reader.scan start true 0 text).head?

theorem findFrom_returnLine (text : List Char) (start : Nat) :
    Regex.returnLine.plain.findFrom text start =
      (firstReturn? text start).map (fun found => found.2.toMatch found.1) := by
  rw [plain_returnLine]
  exact ReturnLine.tree_reads.findFrom_eq text start

section First

variable {text : List Char} {start offset : Nat} {line : ReturnLine}

/-- Where the first return line from `start` on stands, and that it is read there. -/
theorem firstReturn?_eq_some (h : firstReturn? text start = some (offset, line)) :
    ∃ before rest, text = before ++ line.word ++ rest ∧ offset = Text.byteLength before ∧
      returnLine? (line.word ++ rest) = some (line, rest) ∧ start ≤ offset ∧
      (before = [] ∨ before.getLast? = some '\n') :=
  ReturnLine.reader.mem_scan_text (List.mem_of_head? h)

/-- The first return line from `start` on stands in the text as a whole line. -/
theorem firstReturn?_split (h : firstReturn? text start = some (offset, line)) :
    ∃ before rest, text = before ++ line.text ++ rest ∧ offset = Text.byteLength before ∧
      start ≤ offset := by
  obtain ⟨before, rest, htext, hoffset, hread, hstart, -⟩ := firstReturn?_eq_some h
  refine ⟨before, afterLine rest, ?_, hoffset, hstart⟩
  rw [ReturnLine.text, (returnLine?_eq_some hread).2.2]
  calc text = before ++ line.word ++ (lineTail rest ++ afterLine rest) := by
        rw [lineTail_append_afterLine]
        exact htext
    _ = before ++ (line.word ++ lineTail rest) ++ afterLine rest := by
        simp only [List.append_assoc]

/-- A return line is not empty: the word stands in it. -/
theorem firstReturn?_pos (h : firstReturn? text start = some (offset, line)) :
    0 < Text.byteLength line.text := by
  obtain ⟨_, _, -, -, hread, -⟩ := firstReturn?_eq_some h
  have hword := mt Text.byteLength_eq_zero.mp (ReturnLine.reader.taken_ne_nil hread)
  rw [ReturnLine.text, Text.byteLength_append]
  exact Nat.add_pos_left (Nat.pos_of_ne_zero hword) _

end First

end ProgramOutline.Grammar
