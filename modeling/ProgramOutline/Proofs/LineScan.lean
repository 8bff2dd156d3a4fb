import Mathlib.Tactic
import ProgramOutline.Proofs.Text.Offset

/-!
# Scanning a text line by line

A `LineReader` reads what may stand at the start of a line. A scan applies it to every line start at
or after a position; where it reads something, the scan goes on from the end of that.

Results:
* `scan_of_read`, `scan_cons`, `scan_nil`: the three steps of a scan.
* `mem_scan`, `mem_scan_lineStart`: everything found stands in the text at the offset given with it,
  and at the start of a line.
* `mem_scan_text`: the same of a scan of a whole text.
* `filterMap_scan`: making something of each item.
* `pairwise_scan`: the items follow one another.
* `exists_covering`: where an item can be read, the scan has found one that covers the place.
* `scan_append_shift`, `scan_past_shift`: a scan of two texts in sequence.
-/

namespace ProgramOutline

/-- A reader of what may stand at the start of a line. What it reads ends inside of a line. -/
structure LineReader (α : Type) where
  /-- Reads an item at the start of the text: the item and what follows it. -/
  read? : List Char → Option (α × List Char)
  /-- The text that an item takes up. -/
  taken : α → List Char
  split : ∀ {text item rest}, read? text = some (item, rest) → text = taken item ++ rest
  inLine : ∀ {text item rest}, read? text = some (item, rest) →
    ∃ c, (taken item).getLast? = some c ∧ c ≠ '\n'

namespace LineReader

variable {α : Type} (r : LineReader α)

theorem taken_ne_nil {text rest : List Char} {item : α} (h : r.read? text = some (item, rest)) :
    r.taken item ≠ [] := by
  obtain ⟨c, hc, -⟩ := r.inLine h
  intro hnil
  rw [hnil] at hc
  cases hc

theorem length_lt {text rest : List Char} {item : α} (h : r.read? text = some (item, rest)) :
    rest.length < text.length := by
  have := List.length_pos_iff.mpr (r.taken_ne_nil h)
  rw [r.split h, List.length_append]
  omega

theorem read?_nil : r.read? [] = none := by
  cases h : r.read? [] with
  | none => rfl
  | some found => exact absurd (r.length_lt h) (by simp)

/-- The items at the starts of lines at or after `position`, with their offsets. The text starts at
    `offset`, and at the start of a line if `lineStart`. After an item the scan goes on from its
    end. -/
def scan (position : Nat) (lineStart : Bool) (offset : Nat) (text : List Char) : List (Nat × α) :=
  match _h : if lineStart && position ≤ offset then r.read? text else none with
  | some (item, rest) =>
    let stop := offset + Text.byteLength (r.taken item)
    (offset, item) :: scan stop false stop rest
  | none =>
    match text with
    | [] => []
    | c :: rest => scan position (c == '\n') (offset + c.utf8Size) rest
termination_by text.length
decreasing_by
  · split at _h
    · exact r.length_lt _h
    · cases _h
  · simp

variable {position offset : Nat} {lineStart : Bool}

theorem scan_of_read {text rest : List Char} {item : α} (hpos : position ≤ offset)
    (h : r.read? text = some (item, rest)) :
    r.scan position true offset text =
      (offset, item) ::
        r.scan (offset + Text.byteLength (r.taken item)) false
          (offset + Text.byteLength (r.taken item)) rest := by
  have hread : (if true && position ≤ offset then r.read? text else none) = some (item, rest) := by
    simpa [hpos] using h
  rw [scan]
  split
  · rename_i item' rest' h'
    obtain ⟨rfl, rfl⟩ := Prod.mk.inj (Option.some.inj (hread.symm.trans h'))
    rfl
  · rename_i h'
    rw [hread] at h'
    cases h'

/-- Nothing is read here: the text is not at the start of a line, the position is not reached yet,
    or there is no item. -/
def Passes (position : Nat) (lineStart : Bool) (offset : Nat) (text : List Char) : Prop :=
  lineStart = true → position ≤ offset → r.read? text = none

theorem Passes.if_eq {text : List Char} (h : r.Passes position lineStart offset text) :
    (if lineStart && position ≤ offset then r.read? text else none) = none := by
  split
  · rename_i hc
    simp only [Bool.and_eq_true, decide_eq_true_eq] at hc
    exact h hc.1 hc.2
  · rfl

theorem scan_cons {c : Char} {rest : List Char}
    (h : r.Passes position lineStart offset (c :: rest)) :
    r.scan position lineStart offset (c :: rest) =
      r.scan position (c == '\n') (offset + c.utf8Size) rest := by
  rw [scan]
  split
  · rename_i h'
    rw [h.if_eq] at h'
    cases h'
  · rfl

theorem scan_nil (h : r.Passes position lineStart offset []) :
    r.scan position lineStart offset [] = [] := by
  rw [scan]
  split
  · rename_i h'
    rw [h.if_eq] at h'
    cases h'
  · rfl

/-- Either an item is read or the scan passes on. -/
theorem read_or_passes (position : Nat) (lineStart : Bool) (offset : Nat) (text : List Char) :
    (lineStart = true ∧ position ≤ offset ∧ ∃ item rest, r.read? text = some (item, rest)) ∨
      r.Passes position lineStart offset text := by
  by_cases hc : lineStart = true ∧ position ≤ offset
  · cases h : r.read? text with
    | none => exact Or.inr (fun _ _ => h)
    | some found => exact Or.inl ⟨hc.1, hc.2, found.1, found.2, rfl⟩
  · exact Or.inr (fun h₁ h₂ => absurd ⟨h₁, h₂⟩ hc)

/-- An induction over the steps of a scan. -/
theorem scan_induction {motive : Nat → Bool → Nat → List Char → Prop}
    (item : ∀ position offset text item rest, position ≤ offset →
      r.read? text = some (item, rest) →
      motive (offset + Text.byteLength (r.taken item)) false
        (offset + Text.byteLength (r.taken item)) rest →
      motive position true offset text)
    (pass : ∀ position lineStart offset c rest, r.Passes position lineStart offset (c :: rest) →
      motive position (c == '\n') (offset + c.utf8Size) rest →
      motive position lineStart offset (c :: rest))
    (done : ∀ position lineStart offset, r.Passes position lineStart offset [] →
      motive position lineStart offset [])
    (position : Nat) (lineStart : Bool) (offset : Nat) (text : List Char) :
    motive position lineStart offset text := by
  induction hn : text.length using Nat.strong_induction_on
    generalizing position lineStart offset text with
  | _ n ih =>
    subst hn
    rcases r.read_or_passes position lineStart offset text with ⟨rfl, hpos, found, rest, h⟩ | h
    · exact item _ _ _ _ _ hpos h (ih _ (r.length_lt h) _ _ _ _ rfl)
    · cases text with
      | nil => exact done _ _ _ h
      | cons c rest => exact pass _ _ _ _ _ h (ih _ (by simp) _ _ _ _ rfl)

/-- What a scan finds stands in the text at the start of a line, at the offset that goes with it and
    not before the position. -/
theorem mem_scan_lineStart {text : List Char} {found : Nat × α}
    (h : found ∈ r.scan position lineStart offset text) :
    ∃ before rest, text = before ++ r.taken found.2 ++ rest ∧
      found.1 = offset + Text.byteLength before ∧
      r.read? (r.taken found.2 ++ rest) = some (found.2, rest) ∧ position ≤ found.1 ∧
      (lineStart = true ∧ before = [] ∨ before.getLast? = some '\n') := by
  induction position, lineStart, offset, text using r.scan_induction with
  | item position offset text item rest hpos hread ih =>
    rw [r.scan_of_read hpos hread] at h
    have hsplit := r.split hread
    rcases List.mem_cons.mp h with rfl | h
    · exact ⟨[], rest, hsplit, rfl, hsplit ▸ hread, hpos, .inl ⟨rfl, rfl⟩⟩
    · obtain ⟨before, rest', rfl, ho, hr, hp, hline | hline⟩ := ih h
      · exact absurd hline.1 (by decide)
      · refine ⟨r.taken item ++ before, rest', by rw [hsplit]; simp, ?_, hr, by omega, .inr ?_⟩
        · rw [ho, Text.byteLength_append]
          omega
        · rw [List.getLast?_append, hline, Option.some_or]
  | pass position lineStart offset c rest hpass ih =>
    rw [r.scan_cons hpass] at h
    obtain ⟨before, rest', rfl, ho, hr, hp, hline⟩ := ih h
    refine ⟨c :: before, rest', by simp, ?_, hr, hp, .inr ?_⟩
    · rw [ho, Text.byteLength_cons]
      omega
    · rcases hline with ⟨hc, rfl⟩ | hline
      · simpa using hc
      · rw [List.getLast?_cons, hline]
        rfl
  | done position lineStart offset hpass =>
    rw [r.scan_nil hpass] at h
    cases h

/-- What a scan finds stands in the text, at the offset that goes with it. -/
theorem mem_scan {text : List Char} {found : Nat × α}
    (h : found ∈ r.scan position lineStart offset text) :
    ∃ before rest, text = before ++ r.taken found.2 ++ rest ∧
      found.1 = offset + Text.byteLength before ∧
      r.read? (r.taken found.2 ++ rest) = some (found.2, rest) := by
  obtain ⟨before, rest, htext, hoffset, hread, -⟩ := r.mem_scan_lineStart h
  exact ⟨before, rest, htext, hoffset, hread⟩

/-- What a scan of a whole text finds is placed by what stands before it: nothing, or text that ends
    a line. -/
theorem mem_scan_text {text : List Char} {item : α}
    (h : (offset, item) ∈ r.scan position true 0 text) :
    ∃ before rest, text = before ++ r.taken item ++ rest ∧ offset = Text.byteLength before ∧
      r.read? (r.taken item ++ rest) = some (item, rest) ∧ position ≤ offset ∧
      (before = [] ∨ before.getLast? = some '\n') := by
  obtain ⟨before, rest, htext, hoffset, hread, hposition, hline⟩ := r.mem_scan_lineStart h
  exact ⟨before, rest, htext, hoffset.trans (Nat.zero_add _), hread, hposition,
    hline.imp And.right id⟩

/-- What is made of each item that a scan of a whole text finds, if something can be made of every
    item that stands in the text. -/
theorem filterMap_scan {β : Type} {text : List Char} {make? : Nat × α → Option β}
    {make : Nat × α → β} (h : ∀ before item rest, text = before ++ r.taken item ++ rest →
      r.read? (r.taken item ++ rest) = some (item, rest) →
      make? (Text.byteLength before, item) = some (make (Text.byteLength before, item)))
    (position : Nat) (lineStart : Bool) :
    (r.scan position lineStart 0 text).filterMap make? =
      (r.scan position lineStart 0 text).map make := by
  rw [← List.filterMap_eq_map]
  apply List.filterMap_congr
  intro found hfound
  obtain ⟨offset, item⟩ := found
  obtain ⟨before, rest, htext, hoffset, hread⟩ := r.mem_scan hfound
  rw [Nat.zero_add] at hoffset
  obtain rfl : offset = Text.byteLength before := hoffset
  exact h before item rest htext hread

/-- The items of a scan follow one another. -/
theorem pairwise_scan (position : Nat) (lineStart : Bool) (offset : Nat) (text : List Char) :
    (r.scan position lineStart offset text).Pairwise
      (fun a b => a.1 + Text.byteLength (r.taken a.2) ≤ b.1) := by
  induction position, lineStart, offset, text using r.scan_induction with
  | item position offset text item rest hpos hread ih =>
    rw [r.scan_of_read hpos hread, List.pairwise_cons]
    refine ⟨?_, ih⟩
    intro found hfound
    obtain ⟨before, _, -, hoffset, -⟩ := r.mem_scan hfound
    dsimp only
    omega
  | pass position lineStart offset c rest hpass ih =>
    rw [r.scan_cons hpass]
    exact ih
  | done position lineStart offset hpass =>
    rw [r.scan_nil hpass]
    exact .nil

/-- An item does not end a line. So if a line ends after an item, it ends in what follows. -/
theorem getLast?_of_append_taken {text after between : List Char} {item : α}
    (h : r.read? text = some (item, after))
    (hline : (r.taken item ++ between).getLast? = some '\n') : between.getLast? = some '\n' := by
  obtain ⟨c, hc, hne⟩ := r.inLine h
  rw [List.getLast?_append, hc] at hline
  cases hlast : between.getLast? with
  | none =>
    rw [hlast] at hline
    exact absurd (Option.some.inj hline) hne
  | some d => simpa [hlast] using hline

/-- Where an item can be read at the start of a line, the scan has found one that starts there or
    goes on beyond that place. -/
theorem exists_covering {position offset : Nat} {lineStart : Bool}
    {text before rest after : List Char} {item : α} (htext : text = before ++ rest)
    (hline : lineStart = true ∧ before = [] ∨ before.getLast? = some '\n')
    (hposition : position ≤ offset + Text.byteLength before)
    (hread : r.read? rest = some (item, after)) :
    ∃ found ∈ r.scan position lineStart offset text, found.1 ≤ offset + Text.byteLength before ∧
      offset + Text.byteLength before < found.1 + Text.byteLength (r.taken found.2) := by
  induction position, lineStart, offset, text using r.scan_induction generalizing before with
  | item position offset text first tail hpos hfirst ih =>
    rw [r.scan_of_read hpos hfirst]
    rcases List.eq_nil_or_concat before with rfl | ⟨init, d, rfl⟩
    · have hne := mt Text.byteLength_eq_zero.mp (r.taken_ne_nil hfirst)
      refine ⟨(offset, first), by simp, Nat.le_add_right .., ?_⟩
      simpa using Nat.pos_of_ne_zero hne
    · have hbreak : (init.concat d).getLast? = some '\n' := by simpa using hline
      have hsplit := (r.split hfirst).symm.trans htext
      rcases List.append_eq_append_iff.mp hsplit with ⟨between, hbefore, rfl⟩ | ⟨y, htaken, -⟩
      · -- the place lies after the first item
        rw [hbefore] at hbreak hposition ⊢
        rw [Text.byteLength_append, ← Nat.add_assoc] at hposition ⊢
        obtain ⟨found, hfound, hcovers⟩ := ih rfl
          (.inr (r.getLast?_of_append_taken hfirst hbreak)) (Nat.le_add_right ..)
        exact ⟨found, List.mem_cons_of_mem _ hfound, hcovers⟩
      · -- the place lies in the first item, and not at its end
        have hy : y ≠ [] := by
          rintro rfl
          rw [List.append_nil] at htaken
          rw [← htaken, ← List.append_nil (r.taken first)] at hbreak
          cases r.getLast?_of_append_taken hfirst hbreak
        have hlength := mt Text.byteLength_eq_zero.mp hy
        refine ⟨(offset, first), by simp, Nat.le_add_right .., ?_⟩
        rw [htaken, Text.byteLength_append]
        omega
  | pass position lineStart offset c tail hpass ih =>
    rw [r.scan_cons hpass]
    cases before with
    | nil =>
      have hstart : lineStart = true := by simpa using hline
      rw [List.nil_append] at htext
      rw [← htext, hpass hstart (by simpa using hposition)] at hread
      cases hread
    | cons d before =>
      obtain ⟨rfl, rfl⟩ := List.cons.inj htext
      rw [Text.byteLength_cons, ← Nat.add_assoc] at hposition ⊢
      refine ih rfl ?_ hposition
      cases before with
      | nil => exact .inl (by simpa using hline)
      | cons e before => exact .inr (by simpa using hline)
  | done position lineStart offset hpass =>
    obtain ⟨rfl, rfl⟩ := List.append_eq_nil_iff.mp htext.symm
    rw [r.read?_nil] at hread
    cases hread

/-- A scan that finds nothing finds nothing from a later position either. -/
theorem scan_eq_nil_of_le {position later : Nat} (hle : position ≤ later) {lineStart : Bool}
    {offset : Nat} {text : List Char} (h : r.scan position lineStart offset text = []) :
    r.scan later lineStart offset text = [] := by
  induction text generalizing lineStart offset with
  | nil =>
    exact r.scan_nil (fun _ _ => r.read?_nil)
  | cons c rest ih =>
    rcases r.read_or_passes position lineStart offset (c :: rest) with
      ⟨rfl, hpos, item, rest', hread⟩ | hpass
    · rw [r.scan_of_read hpos hread] at h
      cases h
    · have hpass' : r.Passes later lineStart offset (c :: rest) := by
        intro hline hreached
        exact hpass hline (by omega)
      rw [r.scan_cons hpass] at h
      rw [r.scan_cons hpass']
      exact ih h

/-! ## Texts in sequence -/

/-- A scan of the same text at another place. -/
theorem scan_shift (n position : Nat) (lineStart : Bool) (offset : Nat) (text : List Char) :
    r.scan (position + n) lineStart (offset + n) text =
      (r.scan position lineStart offset text).map (fun found => (found.1 + n, found.2)) := by
  induction position, lineStart, offset, text using r.scan_induction with
  | item position offset text item rest hpos hread ih =>
    have hstop : offset + n + Text.byteLength (r.taken item) =
        offset + Text.byteLength (r.taken item) + n := by omega
    rw [r.scan_of_read hpos hread, r.scan_of_read (by omega) hread, List.map_cons, hstop, ih]
  | pass position lineStart offset c rest hpass ih =>
    have hshift : r.Passes (position + n) lineStart (offset + n) (c :: rest) := by
      intro hline hle
      exact hpass hline (by omega)
    rw [r.scan_cons hpass, r.scan_cons hshift, ← ih, Nat.add_right_comm]
  | done position lineStart offset hpass =>
    have hshift : r.Passes (position + n) lineStart (offset + n) [] := by
      intro hline hle
      exact hpass hline (by omega)
    rw [r.scan_nil hpass, r.scan_nil hshift, List.map_nil]

/-- A position that has been reached is of no account. -/
theorem scan_reached {position offset : Nat} (h : position ≤ offset) (lineStart : Bool)
    (text : List Char) :
    r.scan position lineStart offset text = r.scan 0 lineStart offset text := by
  induction position, lineStart, offset, text using r.scan_induction with
  | item position offset text item rest hpos hread ih =>
    rw [r.scan_of_read hpos hread, r.scan_of_read (Nat.zero_le offset) hread]
  | pass position lineStart offset c rest hpass ih =>
    have hzero : r.Passes 0 lineStart offset (c :: rest) := fun hline _ => hpass hline h
    rw [r.scan_cons hpass, r.scan_cons hzero, ih (by omega)]
  | done position lineStart offset hpass =>
    have hzero : r.Passes 0 lineStart offset [] := fun hline _ => hpass hline h
    rw [r.scan_nil hpass, r.scan_nil hzero]

/-- A scan from a position after the first of two texts does not look at that one. -/
theorem scan_past {text : List Char} (hline : text.getLast? = some '\n') (u : List Char)
    (h : offset + Text.byteLength text ≤ position) :
    r.scan position lineStart offset (text ++ u) =
      r.scan position true (offset + Text.byteLength text) u := by
  induction text generalizing lineStart offset with
  | nil => cases hline
  | cons c rest ih =>
    have hsize := Char.utf8Size_pos c
    rw [Text.byteLength_cons] at h
    have hpass : r.Passes position lineStart offset (c :: (rest ++ u)) := by
      intro _ hle
      omega
    rw [List.cons_append, r.scan_cons hpass, Text.byteLength_cons, ← Nat.add_assoc]
    cases rest with
    | nil =>
      obtain rfl : c = '\n' := by simpa using hline
      rfl
    | cons d rest =>
      rw [List.getLast?_cons_cons] at hline
      exact ih hline (by omega)

/-- At every place of `text`, what follows it makes no difference to the reader. -/
def Local (text u : List Char) : Prop :=
  ∀ s, s <:+ text → s ≠ [] →
    r.read? (s ++ u) = (r.read? s).map (fun found => (found.1, found.2 ++ u))

variable {r}

theorem Local.of_suffix {s text u : List Char} (h : r.Local text u) (hs : s <:+ text) :
    r.Local s u :=
  fun s' hs' hne => h s' (hs'.trans hs) hne

/-- What follows an item in a text that ends a line ends a line, as the item does not. -/
theorem getLast?_of_read {text rest : List Char} {item : α} (h : r.read? text = some (item, rest))
    (hline : text.getLast? = some '\n') : rest.getLast? = some '\n' := by
  rw [r.split h] at hline
  exact r.getLast?_of_append_taken h hline

/-- A scan of two texts in sequence, the first of which ends a line and is not read differently for
    what follows it. -/
theorem scan_append {text u : List Char} (hlocal : r.Local text u)
    (hline : text.getLast? = some '\n') (h : position ≤ offset + Text.byteLength text) :
    r.scan position lineStart offset (text ++ u) =
      r.scan position lineStart offset text ++
        r.scan 0 true (offset + Text.byteLength text) u := by
  induction position, lineStart, offset, text using r.scan_induction with
  | item position offset text item rest hpos hread ih =>
    have hsplit := r.split hread
    have hne : text ≠ [] := by
      rintro rfl
      cases hline
    have hread' : r.read? (text ++ u) = some (item, rest ++ u) := by
      rw [hlocal text (List.suffix_refl text) hne, hread]
      rfl
    have hrest : rest <:+ text := ⟨r.taken item, hsplit.symm⟩
    have hlength : offset + Text.byteLength text =
        offset + Text.byteLength (r.taken item) + Text.byteLength rest := by
      rw [hsplit, Text.byteLength_append]
      omega
    rw [r.scan_of_read hpos hread, r.scan_of_read hpos hread', hlength, List.cons_append,
      ih (hlocal.of_suffix hrest) (getLast?_of_read hread hline) (by omega)]
  | pass position lineStart offset c rest hpass ih =>
    have hpass' : r.Passes position lineStart offset (c :: (rest ++ u)) := by
      intro hl hle
      rw [← List.cons_append, hlocal (c :: rest) (List.suffix_refl _) (by simp), hpass hl hle]
      rfl
    rw [List.cons_append, r.scan_cons hpass', r.scan_cons hpass, Text.byteLength_cons,
      ← Nat.add_assoc]
    rw [Text.byteLength_cons] at h
    cases rest with
    | nil =>
      -- the line feed that ends the text
      obtain rfl : c = '\n' := by simpa using hline
      have hnil : r.Passes position true (offset + '\n'.utf8Size) [] := fun _ _ => r.read?_nil
      rw [beq_self_eq_true, r.scan_nil hnil, List.nil_append, List.nil_append,
        Text.byteLength_nil, Nat.add_zero]
      exact r.scan_reached (by simpa using h) true u
    | cons d rest =>
      rw [List.getLast?_cons_cons] at hline
      exact ih (hlocal.of_suffix (List.suffix_cons c _)) hline (by omega)
  | done position lineStart offset hpass => cases hline

/-- The items of two texts in sequence. -/
theorem scan_append_shift {text u : List Char} (hlocal : r.Local text u)
    (hline : text.getLast? = some '\n') (h : position ≤ Text.byteLength text) :
    r.scan position true 0 (text ++ u) =
      r.scan position true 0 text ++
        (r.scan 0 true 0 u).map (fun found => (found.1 + Text.byteLength text, found.2)) := by
  have hreached := r.scan_reached (le_refl (Text.byteLength text)) true u
  have hshift := r.scan_shift (Text.byteLength text) 0 true 0 u
  rw [Nat.zero_add] at hshift
  rw [scan_append hlocal hline (by omega), Nat.zero_add, ← hreached, hshift]

/-- The items of the second of two texts in sequence. -/
theorem scan_past_shift {text : List Char} (hline : text.getLast? = some '\n') (u : List Char)
    (position : Nat) :
    r.scan (position + Text.byteLength text) true 0 (text ++ u) =
      (r.scan position true 0 u).map (fun found => (found.1 + Text.byteLength text, found.2)) := by
  rw [r.scan_past hline u (by omega)]
  exact r.scan_shift (Text.byteLength text) position true 0 u

end LineReader

end ProgramOutline
