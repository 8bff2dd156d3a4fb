import Mathlib.Data.List.TakeWhile
import Mathlib.Tactic
import ProgramOutline.Text.Blank
import ProgramOutline.Text.Bytes

/-!
# Trimming a text

Results:
* `trim_of_isBlank`: a text without blanks is left as it is.
* `exists_of_trim_ne_nil`: trimming leaves nothing only of blanks.
* `takeWhile_isBlank_append`, `byteLength_takeWhile_lt`: the blanks that a text starts with.
* `stripWhile_append_left`, `stripWhile_append_right`: noise at the ends of a text is of no account.
-/

namespace ProgramOutline.Text

theorem dropWhile_of_forall {p : Char → Bool} {text : List Char} (h : ∀ c ∈ text, p c = false) :
    text.dropWhile p = text := by
  cases text with
  | nil => rfl
  | cons c rest =>
    have hc : ¬ p c = true := by simp [h c (by simp)]
    exact List.dropWhile_cons_of_neg hc

theorem trim_of_isBlank {text : List Char} (h : ∀ c ∈ text, isBlank c = false) :
    trim text = text := by
  have hreverse : ∀ c ∈ text.reverse, isBlank c = false := by
    intro c hc
    exact h c (List.mem_reverse.mp hc)
  rw [trim, stripWhile, dropEndWhile, dropWhile_of_forall h, dropWhile_of_forall hreverse,
    List.reverse_reverse]

/-- Blanks, then something that is not blank, then anything. -/
theorem takeWhile_isBlank_append {blanks ink rest : List Char}
    (hblanks : ∀ c ∈ blanks, isBlank c = true) (hne : ink ≠ [])
    (hink : ∀ c ∈ ink, isBlank c = false) :
    (blanks ++ (ink ++ rest)).takeWhile isBlank = blanks := by
  rw [List.takeWhile_append_of_pos hblanks]
  cases ink with
  | nil => exact absurd rfl hne
  | cons c ink =>
    have hc : ¬ isBlank c = true := by simp [hink c (by simp)]
    rw [List.cons_append, List.takeWhile_cons_of_neg hc, List.append_nil]

theorem exists_of_trim_ne_nil {text : List Char} (h : trim text ≠ []) :
    ∃ c ∈ text, isBlank c = false := by
  by_contra hall
  have hblank : ∀ c ∈ text, isBlank c = true := by simpa using hall
  rw [trim, stripWhile, List.dropWhile_eq_nil_iff.mpr hblank] at h
  exact h rfl

theorem byteLength_takeWhile_lt {p : Char → Bool} {text : List Char} {c : Char} (hc : c ∈ text)
    (hp : p c = false) : byteLength (text.takeWhile p) < byteLength text := by
  induction text with
  | nil => cases hc
  | cons d rest ih =>
    have hpos := Char.utf8Size_pos d
    rw [List.takeWhile_cons, byteLength_cons]
    split
    · rename_i hd
      have hrest : c ∈ rest := by
        rcases List.mem_cons.mp hc with rfl | hrest
        · rw [hp] at hd
          cases hd
        · exact hrest
      have := ih hrest
      rw [byteLength_cons]
      omega
    · rw [byteLength_nil]
      omega

/-! ## Noise at the ends -/

section Noise

variable {p : Char → Bool} {noise : List Char} (h : ∀ c ∈ noise, p c = true) (text : List Char)

include h

theorem stripWhile_append_left : stripWhile p (noise ++ text) = stripWhile p text := by
  rw [stripWhile, List.dropWhile_append_of_pos h, stripWhile]

theorem dropEndWhile_append : dropEndWhile p (text ++ noise) = dropEndWhile p text := by
  have hreverse : ∀ c ∈ noise.reverse, p c = true := fun c hc => h c (List.mem_reverse.mp hc)
  rw [dropEndWhile, List.reverse_append, List.dropWhile_append_of_pos hreverse, dropEndWhile]

theorem stripWhile_append_right : stripWhile p (text ++ noise) = stripWhile p text := by
  rw [stripWhile, List.dropWhile_append]
  split
  · -- the text is nothing but noise itself
    rename_i hempty
    rw [List.dropWhile_eq_nil_iff.mpr h, stripWhile, List.isEmpty_iff.mp hempty]
  · rw [dropEndWhile_append h, stripWhile]

end Noise

end ProgramOutline.Text
