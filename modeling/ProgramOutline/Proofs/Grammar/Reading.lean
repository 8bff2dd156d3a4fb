import Mathlib.Data.List.TakeWhile
import ProgramOutline.Proofs.Unicode.Letters

/-!
# Reading words, runs and signs

The readers from which the grammars of the default rules are made. Each takes a start of the text
and gives it together with what follows.

Results:
* `word?_split`, `run?_split`, `sign?_eq_some_iff`: nothing is lost.
* `word?_of_clash`: two words that differ in some letter cannot both be read from one text.
-/

namespace ProgramOutline.Grammar

open Unicode

/-- A space or a tab. -/
def isGap (c : Char) : Bool := c == ' ' || c == '\t'

/-- Reads a word, each letter of it in any case. -/
def word? : List Char → List Char → Option (List Char × List Char)
  | [], text => some ([], text)
  | _ :: _, [] => none
  | k :: word, c :: text =>
    if sameCase k c then (word? word text).map (fun found => (c :: found.1, found.2)) else none

/-- Reads the first of several words that the text starts with. -/
def oneOf? (words : List (List Char)) (text : List Char) : Option (List Char × List Char) :=
  words.findSome? (fun word => word? word text)

/-- Reads all characters up to the first that does not satisfy `p`, at least one. -/
def run? (p : Char → Bool) (text : List Char) : Option (List Char × List Char) :=
  if (text.takeWhile p).isEmpty then none else some (text.takeWhile p, text.dropWhile p)

/-- What follows a sign, if the text starts with it. -/
def sign? (sign : Char) : List Char → Option (List Char)
  | [] => none
  | c :: rest => if c = sign then some rest else none

theorem sign?_eq_some_iff {sign : Char} {text rest : List Char} :
    sign? sign text = some rest ↔ text = sign :: rest := by
  cases text with
  | nil => simp [sign?]
  | cons c text =>
    simp only [sign?, Option.ite_none_right_eq_some, Option.some.injEq, List.cons.injEq]

/-! ## Words -/

theorem word?_cons (k c : Char) (word text : List Char) :
    word? (k :: word) (c :: text) =
      if sameCase k c then (word? word text).map (fun found => (c :: found.1, found.2))
      else none := rfl

theorem word?_cons_eq_some {k c : Char} {word text : List Char} {found : List Char × List Char}
    (h : word? (k :: word) (c :: text) = some found) :
    sameCase k c = true ∧
      ∃ found', word? word text = some found' ∧ (c :: found'.1, found'.2) = found := by
  rw [word?_cons, Option.ite_none_right_eq_some, Option.map_eq_some_iff] at h
  exact h

theorem word?_split {word text taken rest : List Char} (h : word? word text = some (taken, rest)) :
    text = taken ++ rest := by
  induction word generalizing text taken with
  | nil =>
    cases h
    rfl
  | cons k word ih =>
    cases text with
    | nil => cases h
    | cons c text =>
      obtain ⟨-, ⟨taken', rest'⟩, hrest, heq⟩ := word?_cons_eq_some h
      cases heq
      rw [ih hrest]
      rfl

theorem word?_forall₂ {word text taken rest : List Char}
    (h : word? word text = some (taken, rest)) :
    List.Forall₂ (fun k c => sameCase k c = true) word taken := by
  induction word generalizing text taken with
  | nil =>
    cases h
    exact .nil
  | cons k word ih =>
    cases text with
    | nil => cases h
    | cons c text =>
      obtain ⟨hk, ⟨taken', rest'⟩, hrest, heq⟩ := word?_cons_eq_some h
      cases heq
      exact .cons hk (ih hrest)

/-- The characters of a word that has been read are those of the word, up to case. -/
theorem exists_sameCase_of_word? {word text taken rest : List Char}
    (h : word? word text = some (taken, rest)) {c : Char} (hc : c ∈ taken) :
    ∃ k ∈ word, sameCase k c = true := by
  have hall := word?_forall₂ h
  clear h
  induction hall with
  | nil => cases hc
  | cons hk _ ih =>
    rcases List.mem_cons.mp hc with rfl | hc
    · exact ⟨_, by simp, hk⟩
    · obtain ⟨k, hmem, hk⟩ := ih hc
      exact ⟨k, by simp [hmem], hk⟩

theorem isBlank_of_word? {word text taken rest : List Char} (hword : ∀ k ∈ word, IsLetter k)
    (h : word? word text = some (taken, rest)) {c : Char} (hc : c ∈ taken) :
    Text.isBlank c = false := by
  obtain ⟨k, hmem, hk⟩ := exists_sameCase_of_word? h hc
  exact isBlank_of_sameCase (hword k hmem) hk

theorem ne_nil_of_word? {word text taken rest : List Char} (hword : word ≠ [])
    (h : word? word text = some (taken, rest)) : taken ≠ [] := by
  rintro rfl
  have := (word?_forall₂ h).length_eq
  exact hword (List.length_eq_zero_iff.mp this)

/-! ## One of several words -/

/-- Some letter of one word is not the letter in its place of the other. -/
def Clash (a b : List Char) : Prop := ∃ k ∈ a.zip b, sameCase k.1 k.2 = false

instance (a b : List Char) : Decidable (Clash a b) :=
  inferInstanceAs (Decidable (∃ k ∈ a.zip b, sameCase k.1 k.2 = false))

theorem word?_of_clash {a b text : List Char} (h : Clash a b) {found : List Char × List Char}
    (ha : word? a text = some found) : word? b text = none := by
  induction a generalizing b text found with
  | nil =>
    obtain ⟨k, hk, -⟩ := h
    cases hk
  | cons k a ih =>
    cases b with
    | nil =>
      obtain ⟨k, hk, -⟩ := h
      cases hk
    | cons l b =>
      cases text with
      | nil => rfl
      | cons c text =>
        obtain ⟨hkc, found', ha, -⟩ := word?_cons_eq_some ha
        obtain ⟨⟨x, y⟩, hk, hne⟩ := h
        rcases List.mem_cons.mp hk with heq | hk
        · cases heq
          -- the first letters differ, so they cannot both stand for the same character
          have hlc : sameCase l c = false := by
            simp only [sameCase, beq_iff_eq, beq_eq_false_iff_ne] at *
            rwa [← hkc, ne_comm]
          simp [word?_cons, hlc]
        · rw [word?_cons, ih ⟨(x, y), hk, hne⟩ ha]
          simp

theorem oneOf?_eq_some {words : List (List Char)} {text : List Char}
    {found : List Char × List Char} (h : oneOf? words text = some found) :
    ∃ word ∈ words, word? word text = some found :=
  List.exists_of_findSome?_eq_some h

theorem oneOf?_cons (word : List Char) (words : List (List Char)) (text : List Char) :
    oneOf? (word :: words) text = (word? word text).or (oneOf? words text) := by
  rw [oneOf?, List.findSome?_cons]
  cases word? word text <;> rfl

theorem oneOf?_of_clash {word text : List Char} {words : List (List Char)}
    (h : ∀ w ∈ words, Clash word w) {found : List Char × List Char}
    (hword : word? word text = some found) : oneOf? words text = none := by
  rw [oneOf?, List.findSome?_eq_none_iff]
  exact fun w hw => word?_of_clash (h w hw) hword

/-! ## Runs -/

theorem run?_eq_some {p : Char → Bool} {text taken rest : List Char}
    (h : run? p text = some (taken, rest)) :
    taken = text.takeWhile p ∧ rest = text.dropWhile p ∧ taken ≠ [] := by
  unfold run? at h
  split at h
  · cases h
  · rename_i hne
    cases h
    exact ⟨rfl, rfl, by simpa using hne⟩

theorem run?_split {p : Char → Bool} {text taken rest : List Char}
    (h : run? p text = some (taken, rest)) : text = taken ++ rest := by
  obtain ⟨rfl, rfl, -⟩ := run?_eq_some h
  exact List.takeWhile_append_dropWhile.symm

theorem forall_of_run? {p : Char → Bool} {text taken rest : List Char}
    (h : run? p text = some (taken, rest)) : ∀ c ∈ taken, p c = true := by
  obtain ⟨rfl, -, -⟩ := run?_eq_some h
  exact fun c hc => List.mem_takeWhile_imp hc

theorem isBlank_of_isGap {c : Char} (h : isGap c = true) : Text.isBlank c = true := by
  simp only [isGap, Bool.or_eq_true, beq_iff_eq] at h
  rcases h with rfl | rfl <;> decide

end ProgramOutline.Grammar
