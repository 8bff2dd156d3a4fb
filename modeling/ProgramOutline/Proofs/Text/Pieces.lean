import Mathlib.Tactic
import ProgramOutline.Text.Pieces

/-!
# Pieces of a text by their number

A text has one piece more than it has separators, and the piece after a separator is numbered by
the separators up to there.

Results:
* `splitOn_append`: the pieces of two texts with a separator between them.
* `pieces_induction`: a text is one piece, or a piece with a separator and a text after it.
* `length_splitOn`: the number of pieces.
* `getElem?_splitOn`: the piece that starts at a given place.
-/

namespace ProgramOutline.Text

variable (sep : Char)

theorem splitOn_append (a b : List Char) :
    splitOn sep (a ++ sep :: b) = splitOn sep a ++ splitOn sep b := by
  induction a with
  | nil => rw [List.nil_append, splitOn_cons, if_pos rfl, splitOn_nil, List.singleton_append]
  | cons c a ih =>
    rw [List.cons_append, splitOn_cons, splitOn_cons, ih]
    split
    · rfl
    · cases h : splitOn sep a with
      | nil => exact absurd h (splitOn_ne_nil sep a)
      | cons piece pieces => rfl

theorem splitOn_of_notMem {text : List Char} (h : sep ∉ text) : splitOn sep text = [text] := by
  induction text with
  | nil => rfl
  | cons c text ih =>
    rw [List.mem_cons, not_or] at h
    rw [splitOn_cons, if_neg (Ne.symm h.1), ih h.2]

/-- What holds of a single piece, and of a piece and a separator before a text if it holds of that
    text, holds of every text. -/
theorem pieces_induction {motive : List Char → Prop} (piece : ∀ text, sep ∉ text → motive text)
    (next : ∀ first rest, sep ∉ first → motive rest → motive (first ++ sep :: rest))
    (text : List Char) : motive text := by
  obtain ⟨n, hn⟩ : ∃ n, text.length = n := ⟨_, rfl⟩
  induction n using Nat.strong_induction_on generalizing text with
  | _ n ih =>
    by_cases h : sep ∈ text
    · obtain ⟨first, rest, rfl, hfirst⟩ := List.eq_append_cons_of_mem h
      have hlength : rest.length < n := by
        rw [← hn, List.length_append, List.length_cons]
        omega
      exact next first rest hfirst (ih rest.length hlength rest rfl)
    · exact piece text h

theorem notMem_of_mem_splitOn {text piece : List Char} (h : piece ∈ splitOn sep text) :
    sep ∉ piece := by
  induction text using pieces_induction sep with
  | piece text htext =>
    rw [splitOn_of_notMem sep htext, List.mem_singleton] at h
    rwa [h]
  | next first rest hfirst ih =>
    rw [splitOn_append, splitOn_of_notMem sep hfirst, List.singleton_append] at h
    rcases List.mem_cons.mp h with rfl | h
    · exact hfirst
    · exact ih h

theorem length_splitOn (text : List Char) : (splitOn sep text).length = text.count sep + 1 := by
  induction text with
  | nil => rfl
  | cons c text ih =>
    rw [splitOn_cons, List.count_cons]
    split
    · rename_i hc
      simp [hc, ih]
    · rename_i hc
      cases h : splitOn sep text with
      | nil => exact absurd h (splitOn_ne_nil sep text)
      | cons piece pieces => simpa [h, hc] using ih

theorem head?_splitOn (text : List Char) :
    (splitOn sep text).head? = some (text.takeWhile (· != sep)) := by
  induction text with
  | nil => rfl
  | cons c text ih =>
    rw [splitOn_cons, List.takeWhile_cons]
    split
    · rename_i hc
      simp [hc]
    · rename_i hc
      cases h : splitOn sep text with
      | nil => exact absurd h (splitOn_ne_nil sep text)
      | cons piece pieces => simpa [h, hc] using ih

/-- The piece that starts right after `before`. -/
theorem getElem?_splitOn {before : List Char}
    (h : before = [] ∨ before.getLast? = some sep) (rest : List Char) :
    (splitOn sep (before ++ rest))[before.count sep]? = some (rest.takeWhile (· != sep)) := by
  rcases h with rfl | h
  · rw [List.count_nil, List.nil_append, ← List.head?_eq_getElem?, head?_splitOn]
  · obtain ⟨a, rfl⟩ := List.getLast?_eq_some_iff.mp h
    have hcount : (a ++ [sep]).count sep = (splitOn sep a).length := by
      rw [length_splitOn, List.count_append, List.count_singleton_self]
    rw [hcount, List.append_assoc, List.singleton_append, splitOn_append,
      List.getElem?_append_right le_rfl, Nat.sub_self, ← List.head?_eq_getElem?, head?_splitOn]

end ProgramOutline.Text
