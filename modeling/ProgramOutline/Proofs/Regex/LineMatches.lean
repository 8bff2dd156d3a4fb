import ProgramOutline.Body
import ProgramOutline.Proofs.LineScan
import ProgramOutline.Proofs.Regex.Ways
import ProgramOutline.Proofs.Text.Offset

/-!
# Patterns that match at line starts

A plain tree `Reads` what a line reader does if it matches exactly at those line starts where the
reader reads something. Then each of the three ways to apply the tree to a text is a scan with the
reader, whatever the window.

Results:
* `Reads.findFrom_eq`: the first match is the first item of the scan.
* `Reads.findAll_eq`: the successive matches are the items of the scan.
* `Reads.declarations_eq`: so are the matches for variables, for which an empty match would be
  handled otherwise.
* `groupText?_eq`: the text of a group.
-/

namespace ProgramOutline.Regex.Tree

/-- Is a position after this character the start of a line? -/
def afterBreak (before : Option Char) : Bool := before.isNone || before == some '\n'

/-- The tree matches where the reader reads an item at the start of a line, and `toMatch` is the
    match for an item at an offset. -/
structure Reads {α : Type} (t : Tree) (r : LineReader α) (toMatch : Nat → α → Match) : Prop where
  plain : t.isPlain
  first : ∀ cur, t.first? cur =
    if afterBreak cur.before then (r.read? cur.rest).map (fun found => toMatch cur.offset found.1)
    else none

/-- A tree after the condition for a line start reads what it matches there. -/
theorem reads_of_first {α : Type} {t : Tree} {r : LineReader α} {toMatch : Nat → α → Match}
    (hplain : t.isPlain) (hfirst : ∀ cur, t.first? cur =
      (r.read? cur.rest).map (fun found => toMatch cur.offset found.1)) :
    (Tree.cat (.look .lineStart) t).Reads r toMatch where
  plain := by simpa [isPlain] using hplain
  first cur := by
    have hlook : Look.lineStart.holds cur.before cur.after = afterBreak cur.before := rfl
    rw [first?, ways_cat, ways_look, hlook]
    by_cases hline : afterBreak cur.before = true
    · rw [if_pos hline, if_pos hline, List.flatMap_singleton]
      exact hfirst cur
    · rw [if_neg hline, if_neg hline]
      rfl

/-- The match for an item spans what the item takes up. -/
def Spans {α : Type} (r : LineReader α) (toMatch : Nat → α → Match) : Prop :=
  ∀ offset item,
    (toMatch offset item).span = ⟨offset, offset + Text.byteLength (r.taken item)⟩

namespace Reads

variable {α : Type} {t : Tree} {r : LineReader α} {toMatch : Nat → α → Match}

theorem matchFrom_of_read (h : t.Reads r toMatch) {size : Nat} {window : Window} {tried : Tried}
    {cur : Cursor} {item : α} {rest : List Char} (hbefore : afterBreak cur.before = true)
    (hfirst : window.first ≤ cur.offset) (hlast : cur.offset ≤ window.last)
    (hread : r.read? cur.rest = some (item, rest)) :
    t.matchFrom size window tried cur = (some (toMatch cur.offset item), tried) := by
  rw [matchFrom_of_plain h.plain, h.first, if_pos ⟨hfirst, hlast⟩, if_pos hbefore, hread]
  rfl

theorem matchFrom_of_passes (h : t.Reads r toMatch) {size : Nat} {window : Window} {tried : Tried}
    {cur : Cursor} (hpass : r.Passes window.first (afterBreak cur.before) cur.offset cur.rest) :
    t.matchFrom size window tried cur = (none, tried) := by
  rw [matchFrom_of_plain h.plain, h.first]
  split_ifs with hwindow hbefore
  · rw [hpass hbefore hwindow.1]
    rfl
  · rfl
  · rfl

/-! ## The first match -/

theorem findAlong_eq (h : t.Reads r toMatch) (size : Nat) (window : Window) (tried : Tried)
    (before : Option Char) (offset : Nat) (text : List Char)
    (hlast : offset + Text.byteLength text ≤ window.last) :
    t.findAlong size window tried before offset text =
      (r.scan window.first (afterBreak before) offset text).head?.map
        (fun found => toMatch found.1 found.2) := by
  induction text generalizing before offset with
  | nil =>
    have hpass : r.Passes window.first (afterBreak before) offset [] := fun _ _ => r.read?_nil
    rw [findAlong, h.matchFrom_of_passes hpass, r.scan_nil hpass]
    rfl
  | cons c rest ih =>
    rcases r.read_or_passes window.first (afterBreak before) offset (c :: rest) with
      ⟨hb, hpos, item, rest', hread⟩ | hpass
    · rw [findAlong, h.matchFrom_of_read hb hpos (by dsimp only; omega) hread, hb,
        r.scan_of_read hpos hread]
      rfl
    · rw [findAlong, h.matchFrom_of_passes hpass, r.scan_cons hpass]
      rw [Text.byteLength_cons] at hlast
      exact ih (some c) (offset + c.utf8Size) (by omega)

/-! ## Successive matches -/

/-- The walk over a text finds nothing before the start of the window. -/
theorem matchesAlong_skip (h : t.Reads r toMatch) (size : Nat) (window : Window)
    (last : Option Nat) (tried : Tried) (before : Option Char) (offset : Nat)
    (skipped rest : List Char) (hfirst : offset + Text.byteLength skipped ≤ window.first) :
    t.matchesAlong size window last tried before offset (skipped ++ rest) =
      t.matchesAlong size window last tried (skipped.getLast?.or before)
        (offset + Text.byteLength skipped) rest := by
  induction skipped generalizing before offset with
  | nil => rfl
  | cons c skipped ih =>
    have hc := Char.utf8Size_pos c
    rw [Text.byteLength_cons] at hfirst
    have hpass : r.Passes window.first (afterBreak before) offset (c :: (skipped ++ rest)) :=
      fun _ hle => by omega
    rw [List.cons_append, matchesAlong, h.matchFrom_of_passes hpass]
    dsimp only
    rw [ih (some c) (offset + c.utf8Size) (by omega), Text.byteLength_cons, Nat.add_assoc]
    congr 1
    cases skipped with
    | nil => rfl
    | cons d skipped => simp [List.getLast?_cons]

/-- The walk from the first character of an item on reaches the end of the item. -/
theorem matchesAlong_after (h : t.Reads r toMatch) {text rest : List Char} {item : α}
    (hread : r.read? text = some (item, rest)) (size last' : Nat) (last : Option Nat)
    (tried : Tried) (c : Char) (tail : List Char) (htext : text = c :: tail) (offset : Nat) :
    ∃ before, afterBreak before = false ∧
      t.matchesAlong size ⟨offset + Text.byteLength (r.taken item), last'⟩ last tried (some c)
          (offset + c.utf8Size) tail =
        t.matchesAlong size ⟨offset + Text.byteLength (r.taken item), last'⟩ last tried before
          (offset + Text.byteLength (r.taken item)) rest := by
  obtain ⟨d, hd, hne⟩ := r.inLine hread
  have hsplit := r.split hread
  rw [htext] at hsplit
  cases htaken : r.taken item with
  | nil => exact absurd htaken (r.taken_ne_nil hread)
  | cons c' skipped =>
    rw [htaken, List.cons_append, List.cons.injEq] at hsplit
    obtain ⟨rfl, rfl⟩ := hsplit
    rw [htaken, List.getLast?_cons] at hd
    have hstep := h.matchesAlong_skip size
      ⟨offset + Text.byteLength (c :: skipped), last'⟩ last tried (some c) (offset + c.utf8Size)
      skipped rest (by simp only [Text.byteLength_cons]; omega)
    refine ⟨some d, by simp [afterBreak, hne], ?_⟩
    rw [hstep, Text.byteLength_cons, Nat.add_assoc]
    congr 1
    cases hl : skipped.getLast? with
    | none => simpa [hl] using hd
    | some e => simpa [hl] using hd

theorem isEmpty_toMatch (hspan : Spans r toMatch) {text rest : List Char} {item : α}
    (hread : r.read? text = some (item, rest)) (offset : Nat) :
    (toMatch offset item).isEmpty = false := by
  have hne := mt Text.byteLength_eq_zero.mp (r.taken_ne_nil hread)
  simp only [Match.isEmpty, hspan offset item, beq_eq_false_iff_ne]
  omega

/-- Successive matches are the items of a scan. The window may start anywhere; a match that ends
    the previous one cannot be empty, so `last` plays no part. -/
theorem matchesAlong_eq (h : t.Reads r toMatch) (hspan : Spans r toMatch) (size last' : Nat)
    (last : Option Nat) (tried : Tried) (before : Option Char) (first offset : Nat)
    (text : List Char) (hlast : offset + Text.byteLength text ≤ last') :
    t.matchesAlong size ⟨first, last'⟩ last tried before offset text =
      (r.scan first (afterBreak before) offset text).map
        (fun found => toMatch found.1 found.2) := by
  generalize hb : afterBreak before = lineStart
  induction first, lineStart, offset, text using r.scan_induction
    generalizing last tried before with
  | item first offset text item rest hpos hread ih =>
    have hlength := r.length_lt hread
    cases text with
    | nil => exact absurd hlength (by simp)
    | cons c tail =>
      have hmatch : t.matchFrom size ⟨first, last'⟩ tried ⟨before, c :: tail, offset⟩ =
          (some (toMatch offset item), tried) :=
        h.matchFrom_of_read hb hpos (by dsimp only; omega) hread
      have hne := isEmpty_toMatch hspan hread offset
      obtain ⟨before', hb', hafter⟩ := h.matchesAlong_after hread size last'
        (some (offset + Text.byteLength (r.taken item)))
        (tried.restart (offset + Text.byteLength (r.taken item))) c tail rfl offset
      have hsplit := r.split hread
      rw [hsplit, Text.byteLength_append] at hlast
      rw [matchesAlong, hmatch, r.scan_of_read hpos hread]
      simp only [hne, hspan offset item, Bool.false_and, Bool.false_eq_true, if_false,
        List.map_cons]
      rw [hafter, ih _ _ _ (by omega) hb']
  | pass first lineStart offset c rest hpass ih =>
    rw [matchesAlong, h.matchFrom_of_passes (by simpa [hb] using hpass), r.scan_cons hpass]
    rw [Text.byteLength_cons] at hlast
    exact ih last tried (some c) (by omega) rfl
  | done first lineStart offset hpass =>
    rw [matchesAlong, h.matchFrom_of_passes (by simpa [hb] using hpass), r.scan_nil hpass]
    rfl

/-! ## Matches for variables -/

theorem isEmpty_of_matchFrom (h : t.Reads r toMatch) (hspan : Spans r toMatch) {size : Nat}
    {window : Window} {tried tried' : Tried} {cur : Cursor} {m : Match}
    (hm : t.matchFrom size window tried cur = (some m, tried')) : m.isEmpty = false := by
  rw [matchFrom_of_plain h.plain, h.first] at hm
  have hm := (Prod.mk.inj hm).1
  split_ifs at hm
  obtain ⟨⟨item, rest⟩, hread, rfl⟩ := Option.map_eq_some_iff.mp hm
  exact isEmpty_toMatch hspan hread _

/-- No match is empty, so the matches for variables are the successive matches. -/
theorem declarationsAlong_eq_matchesAlong (h : t.Reads r toMatch) (hspan : Spans r toMatch)
    (size : Nat) (window : Window) (last : Option Nat) (tried : Tried) (before : Option Char)
    (offset : Nat) (text : List Char) :
    t.declarationsAlong size window tried before offset text =
      t.matchesAlong size window last tried before offset text := by
  induction text generalizing window last tried before offset with
  | nil =>
    rw [declarationsAlong, matchesAlong]
    rcases hm : t.matchFrom size window tried ⟨before, [], offset⟩ with ⟨_ | m, tried'⟩
    · rfl
    · simp [h.isEmpty_of_matchFrom hspan hm]
  | cons c rest ih =>
    rw [declarationsAlong, matchesAlong]
    rcases hm : t.matchFrom size window tried ⟨before, c :: rest, offset⟩ with ⟨_ | m, tried'⟩
    · exact ih ..
    · simp only [h.isEmpty_of_matchFrom hspan hm, Bool.false_and, Bool.false_eq_true, if_false]
      rw [ih]

theorem declarationsAlong_eq (h : t.Reads r toMatch) (hspan : Spans r toMatch) (size last' : Nat)
    (tried : Tried) (before : Option Char) (first offset : Nat) (text : List Char)
    (hlast : offset + Text.byteLength text ≤ last') :
    t.declarationsAlong size ⟨first, last'⟩ tried before offset text =
      (r.scan first (afterBreak before) offset text).map
        (fun found => toMatch found.1 found.2) := by
  rw [h.declarationsAlong_eq_matchesAlong hspan size _ none, h.matchesAlong_eq hspan _ _ _ _ _ _ _ _
    hlast]

/-! ## Whole texts -/

theorem findFrom_eq (h : t.Reads r toMatch) (text : List Char) (start : Nat) :
    t.findFrom text start =
      (r.scan start true 0 text).head?.map (fun found => toMatch found.1 found.2) := by
  unfold findFrom
  exact h.findAlong_eq _ _ _ _ _ _ (by dsimp only [offsetBound]; omega)

variable {pattern : Pattern}

theorem findAll_eq (h : pattern.tree.Reads r toMatch) (hspan : Spans r toMatch)
    (hneeds : pattern.needs = []) (text : List Char) :
    pattern.findAll text =
      (r.scan 0 true 0 text).map (fun found => toMatch found.1 found.2) := by
  have hwindow : pattern.window? text 0 = some ⟨0, offsetBound text⟩ := by
    simp [Pattern.window?, hneeds]
  rw [Pattern.findAll, hwindow]
  exact h.matchesAlong_eq hspan _ _ _ _ _ _ _ _ (by rw [offsetBound]; omega)

theorem declarations_eq (h : pattern.tree.Reads r toMatch) (hspan : Spans r toMatch)
    (hneeds : pattern.needs = []) (text : List Char) (start : Nat) :
    pattern.declarations text start =
      (r.scan start true 0 text).map (fun found => toMatch found.1 found.2) := by
  have hwindow : pattern.window? text start = some ⟨start, offsetBound text⟩ := by
    simp [Pattern.window?, hneeds]
  rw [Pattern.declarations, hwindow]
  exact h.declarationsAlong_eq hspan _ _ _ _ _ _ _ (by rw [offsetBound]; omega)

end Reads

end ProgramOutline.Regex.Tree

namespace ProgramOutline.Regex.Match

/-- The text of a group by what stands before it, itself and what stands after it. -/
theorem groupText?_eq {m : Match} {index start stop : Nat} {text : List Char}
    (before taken after : List Char) (hgroup : m.group? index = some ⟨start, stop⟩)
    (htext : text = before ++ taken ++ after) (hstart : start = Text.byteLength before)
    (hstop : stop = start + Text.byteLength taken) : m.groupText? text index = some taken := by
  rw [groupText?, hgroup, Option.map_some, htext, Text.slice_append before taken after hstart hstop]

end ProgramOutline.Regex.Match
