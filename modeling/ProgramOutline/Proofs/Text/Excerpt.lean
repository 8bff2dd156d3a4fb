import ProgramOutline.Proofs.Text.Checked
import ProgramOutline.Proofs.Text.Pieces
import ProgramOutline.Proofs.Text.Trim

/-!
# Excerpts of a text

What is cut out of a text and trimmed is an excerpt: a stretch of the text that neither starts nor
ends with a blank, and so is not empty. Cutting, splitting and trimming only shrink stretches.

Results:
* `Excerpt.stripWhile`: a text without the blanks and other noise at its ends, if anything is left.
* `trim_isPrefix_trim`: trimming a start of a text gives a start of the trimmed text.
* `isInfix_of_mem_splitOn`: the pieces of a text are stretches of it.
* `Excerpt.dropWhile`: an excerpt is not touched when the blanks in front of the text are dropped.
* `slice_isInfix_slice`: slices that lie in one another.
-/

namespace ProgramOutline.Text

/-- A stretch of a text that starts and ends with characters that are not blank. -/
structure Excerpt (piece text : List Char) : Prop where
  first : ∃ c, piece.head? = some c ∧ isBlank c = false
  last : ∃ c, piece.getLast? = some c ∧ isBlank c = false
  within : piece <:+: text

theorem Excerpt.mono {piece text text' : List Char} (h : Excerpt piece text)
    (hwithin : text <:+: text') : Excerpt piece text' :=
  ⟨h.first, h.last, h.within.trans hwithin⟩

theorem Excerpt.ne_nil {piece text : List Char} (h : Excerpt piece text) : piece ≠ [] := by
  rintro rfl
  obtain ⟨c, hc, -⟩ := h.first
  cases hc

/-! ## Trimming -/

section Strip

variable (p : Char → Bool) (text : List Char)

theorem dropEndWhile_isPrefix : dropEndWhile p text <+: text := by
  have h := List.reverse_prefix.mpr (List.dropWhile_suffix (l := text.reverse) p)
  rwa [List.reverse_reverse] at h

theorem stripWhile_isInfix : stripWhile p text <:+: text :=
  (dropEndWhile_isPrefix p _).isInfix.trans (List.dropWhile_suffix p).isInfix

theorem stripWhile_first {c : Char} (h : (stripWhile p text).head? = some c) : p c = false := by
  obtain ⟨rest, hrest⟩ := dropEndWhile_isPrefix p (text.dropWhile p)
  have hhead : (text.dropWhile p).head? = some c := by
    rw [← hrest, List.head?_append]
    change (stripWhile p text).head?.or _ = _
    rw [h]
    rfl
  have hnot := List.head?_dropWhile_not p text
  rw [hhead] at hnot
  simpa using hnot

theorem stripWhile_last {c : Char} (h : (stripWhile p text).getLast? = some c) : p c = false := by
  rw [stripWhile, dropEndWhile, List.getLast?_reverse] at h
  have hnot := List.head?_dropWhile_not p (text.dropWhile p).reverse
  rw [h] at hnot
  simpa using hnot

end Strip

theorem dropEndWhile_concat {p : Char → Bool} {c : Char} (hc : ¬ p c = true) (text : List Char) :
    dropEndWhile p (text ++ [c]) = text ++ [c] := by
  rw [dropEndWhile, List.reverse_append, List.reverse_singleton, List.singleton_append,
    List.dropWhile_cons_of_neg hc, List.reverse_cons, List.reverse_reverse]

/-- A longer text keeps more at its end. -/
theorem dropEndWhile_isPrefix_append (p : Char → Bool) (text after : List Char) :
    dropEndWhile p text <+: dropEndWhile p (text ++ after) := by
  induction after using List.reverseRecOn with
  | nil => rw [List.append_nil]
  | append_singleton after c ih =>
    rw [← List.append_assoc]
    by_cases hc : p c = true
    · rwa [dropEndWhile_append (List.forall_mem_singleton.mpr hc)]
    · rw [dropEndWhile_concat hc, List.append_assoc]
      exact (dropEndWhile_isPrefix p text).trans (List.prefix_append text _)

theorem trim_isPrefix_trim {a b : List Char} (h : a <+: b) : trim a <+: trim b := by
  obtain ⟨after, rfl⟩ := h
  rw [trim, trim, stripWhile, stripWhile, List.dropWhile_append]
  split
  · rename_i hempty
    rw [List.isEmpty_iff.mp hempty]
    exact List.nil_prefix
  · exact dropEndWhile_isPrefix_append isBlank _ after

/-- A text without noise at its ends, blanks being noise. -/
theorem Excerpt.stripWhile {p : Char → Bool} (hp : ∀ c, isBlank c = true → p c = true)
    {text : List Char} (h : stripWhile p text ≠ []) : Excerpt (stripWhile p text) text := by
  have hblank : ∀ {c}, p c = false → isBlank c = false := by
    intro c hc
    by_contra hnot
    rw [hp c (by simpa using hnot)] at hc
    cases hc
  obtain ⟨c, rest, hcons⟩ := List.exists_cons_of_ne_nil h
  have hhead : (Text.stripWhile p text).head? = some c := by rw [hcons]; rfl
  have hlast := List.getLast?_eq_getLast_of_ne_nil h
  exact ⟨⟨c, hhead, hblank (stripWhile_first p text hhead)⟩,
    ⟨_, hlast, hblank (stripWhile_last p text hlast)⟩, stripWhile_isInfix p text⟩

theorem Excerpt.trim {text : List Char} (h : Text.trim text ≠ []) : Excerpt (Text.trim text) text :=
  .stripWhile (fun _ hc => hc) h

theorem Excerpt.trim_eq_self {piece text : List Char} (h : Excerpt piece text) :
    Text.trim piece = piece := by
  obtain ⟨c, hfirst, hc⟩ := h.first
  obtain ⟨d, hlast, hd⟩ := h.last
  obtain ⟨rest, rfl⟩ := List.head?_eq_some_iff.mp hfirst
  obtain ⟨before, hbefore⟩ := List.getLast?_eq_some_iff.mp hlast
  have hfirst : (c :: rest).dropWhile isBlank = c :: rest :=
    List.dropWhile_cons_of_neg (by simp [hc])
  rw [Text.trim, Text.stripWhile, hfirst, hbefore, dropEndWhile_concat (by simp [hd])]

theorem trim_ne_nil {text : List Char} {c : Char} (hmem : c ∈ text) (hink : isBlank c = false) :
    Text.trim text ≠ [] := by
  intro h
  have hdrop : text.dropWhile isBlank ≠ [] := by
    intro hnil
    rw [List.dropWhile_eq_nil_iff.mp hnil c hmem] at hink
    cases hink
  obtain ⟨d, rest, hcons⟩ := List.exists_cons_of_ne_nil hdrop
  have hd := List.head?_dropWhile_not isBlank text
  rw [hcons] at hd
  have hreverse : (text.dropWhile isBlank).reverse.dropWhile isBlank = [] :=
    List.reverse_eq_nil_iff.mp h
  have hall := List.dropWhile_eq_nil_iff.mp hreverse d (by simp [hcons])
  simp [hall] at hd

/-! ## Pieces -/

theorem isInfix_of_mem_splitOn {sep : Char} {text piece : List Char}
    (h : piece ∈ splitOn sep text) : piece <:+: text := by
  induction text generalizing piece with
  | nil =>
    obtain rfl := List.mem_singleton.mp h
    exact List.infix_rfl
  | cons c rest ih =>
    have hlater : ∀ {piece}, piece ∈ splitOn sep rest → piece <:+: c :: rest := fun hpiece =>
      (ih hpiece).trans (List.suffix_cons c rest).isInfix
    rw [splitOn_cons] at h
    split at h
    · rcases List.mem_cons.mp h with rfl | hpiece
      · exact List.nil_infix
      · exact hlater hpiece
    · -- the first piece goes on to the left, so it has to be a start of the rest
      have hhead := head?_splitOn sep rest
      cases hpieces : splitOn sep rest with
      | nil => exact absurd hpieces (splitOn_ne_nil sep rest)
      | cons first pieces =>
        rw [hpieces] at h hhead hlater
        rcases List.mem_cons.mp h with rfl | hpiece
        · obtain rfl := Option.some.inj hhead
          have hstart : rest.takeWhile (· != sep) <+: rest := List.takeWhile_prefix _
          exact ((List.prefix_cons_inj c).mpr hstart).isInfix
        · exact hlater (List.mem_cons_of_mem first hpiece)

/-- Blanks in front of a text are in front of its excerpts. -/
theorem Excerpt.dropWhile {piece text : List Char} (h : Excerpt piece text) :
    Excerpt piece (text.dropWhile isBlank) := by
  refine ⟨h.first, h.last, ?_⟩
  obtain ⟨d, hd, hink⟩ := h.first
  have hwithin := h.within
  clear h
  induction text with
  | nil => exact hwithin
  | cons c rest ih =>
    rw [List.dropWhile_cons]
    split
    · rename_i hc
      rcases List.infix_cons_iff.mp hwithin with ⟨tail, htail⟩ | hrest
      · -- the excerpt would start with the blank
        cases piece with
        | nil => cases hd
        | cons e piece =>
          obtain rfl := Option.some.inj hd
          rw [(List.cons.inj htail).1, hc] at hink
          cases hink
      · exact ih hrest
    · exact hwithin

/-! ## Slices -/

theorem prefix_of_byteLength_le {a b text : List Char} (ha : a <+: text) (hb : b <+: text)
    (h : byteLength a ≤ byteLength b) : a <+: b := by
  rcases List.prefix_or_prefix_of_prefix ha hb with hab | ⟨c, rfl⟩
  · exact hab
  · rw [byteLength_append] at h
    obtain rfl := byteLength_eq_zero.mp (show byteLength c = 0 by omega)
    rw [List.append_nil]

/-- A slice between two boundaries that lie between two others. -/
theorem slice_isInfix_slice {text : List Char} {a b c d : Nat} (ha : isBoundary a text = true)
    (hb : isBoundary b text = true) (hc : isBoundary c text = true) (hd : isBoundary d text = true)
    (hac : a ≤ c) (hcd : c ≤ d) (hdb : d ≤ b) : slice text c d <:+: slice text a b := by
  obtain ⟨x, restA, hx, rfl⟩ := isBoundary_iff.mp ha
  obtain ⟨y, restC, hy, rfl⟩ := isBoundary_iff.mp hc
  obtain ⟨z, restD, hz, rfl⟩ := isBoundary_iff.mp hd
  obtain ⟨w, rest, hw, rfl⟩ := isBoundary_iff.mp hb
  obtain ⟨p, rfl⟩ := prefix_of_byteLength_le ⟨restA, hx.symm⟩ ⟨restC, hy.symm⟩ hac
  obtain ⟨q, rfl⟩ := prefix_of_byteLength_le ⟨restC, hy.symm⟩ ⟨restD, hz.symm⟩ hcd
  obtain ⟨r, rfl⟩ := prefix_of_byteLength_le ⟨restD, hz.symm⟩ ⟨rest, hw.symm⟩ hdb
  have hinner : slice text (byteLength (x ++ p)) (byteLength (x ++ p ++ q)) = q := by
    rw [hz]
    exact slice_append (x ++ p) q restD rfl (byteLength_append _ _)
  have houter : slice text (byteLength x) (byteLength (x ++ p ++ q ++ r)) = p ++ q ++ r := by
    have hassoc : text = x ++ (p ++ q ++ r) ++ rest := by simpa using hw
    rw [hassoc]
    refine slice_append x (p ++ q ++ r) rest rfl ?_
    simp only [byteLength_append]
    omega
  rw [hinner, houter]
  exact ⟨p, r, rfl⟩

end ProgramOutline.Text
