import Mathlib.Tactic
import ProgramOutline.Text.Blank
import ProgramOutline.Unicode.CaseFold
import ProgramOutline.Unicode.Word

/-!
# Letters up to case, word characters and blanks

Two characters have the same case class if folding sends them to the same first character. For an
ASCII letter the class is the letter in both cases, with the Kelvin sign beside `k` and the long `s`
beside `s`.

Results:
* `contains_caseClosure_single`: the set that a keyword's letter matches is its case class.
* `isWord_of_sameCase`: letters are word characters in any case.
* `isBlank_of_sameCase`, `isBlank_of_isWord`: neither letters nor word characters are blank.
-/

namespace ProgramOutline.Unicode

/-- Do two characters differ at most in case? -/
def sameCase (a b : Char) : Bool := firstCase a.toNat == firstCase b.toNat

/-- An ASCII letter. -/
def IsLetter (c : Char) : Prop :=
  (65 ≤ c.toNat ∧ c.toNat ≤ 90) ∨ (97 ≤ c.toNat ∧ c.toNat ≤ 122)

instance (c : Char) : Decidable (IsLetter c) :=
  inferInstanceAs (Decidable ((65 ≤ c.toNat ∧ c.toNat ≤ 90) ∨ (97 ≤ c.toNat ∧ c.toNat ≤ 122)))

theorem IsLetter.cases {c : Char} (h : IsLetter c) :
    ∃ i < 26, c = Char.ofNat (i + 65) ∨ c = Char.ofNat (i + 97) := by
  rcases h with ⟨h₁, h₂⟩ | ⟨h₁, h₂⟩
  · refine ⟨c.toNat - 65, by omega, Or.inl ?_⟩
    rw [Nat.sub_add_cancel h₁, Char.ofNat_toNat]
  · refine ⟨c.toNat - 97, by omega, Or.inr ?_⟩
    rw [Nat.sub_add_cancel h₁, Char.ofNat_toNat]

/-- A word of letters, by a check that can be run. -/
theorem isLetter_of_all {text : List Char} (h : text.all (fun c => decide (IsLetter c)) = true) :
    ∀ c ∈ text, IsLetter c := by
  intro c hc
  exact of_decide_eq_true (List.all_eq_true.mp h c hc)

/-! ## Case classes of letters -/

/-- The code points whose class is that of the capital letter `u`. -/
def letterClass (u : Nat) : List Nat :=
  u :: (u + 32) :: if u = 0x53 then [0x17F] else if u = 0x4B then [0x212A] else []

/-- Only three runs of the table lead to ASCII characters or start with one. -/
theorem caseRuns_low : ∀ run ∈ caseRuns, run.2.2.2 < 0x80 ∨ run.1 < 0x80 →
    run = (0x61, 0x7A, 1, 0x41) ∨ run = (0x17F, 0x17F, 1, 0x53) ∨
      run = (0x212A, 0x212A, 1, 0x4B) := by
  decide +kernel

theorem firstCase_letterClass : ∀ i < 26, ∀ n ∈ letterClass (i + 65), firstCase n = i + 65 := by
  decide

theorem mem_letterClass_of_firstCase {n u : Nat} (h : firstCase n = u) (hu : 65 ≤ u ∧ u ≤ 90) :
    n ∈ letterClass u := by
  unfold firstCase at h
  split at h
  · rename_i run lo hi step target hfind
    have hmem := List.mem_of_find?_eq_some hfind
    have hrange := List.find?_some hfind
    simp only [Bool.and_eq_true, decide_eq_true_eq, beq_iff_eq] at hrange
    rcases caseRuns_low _ hmem (by dsimp only; omega) with h' | h' | h' <;>
      (simp only [Prod.mk.injEq] at h'; obtain ⟨rfl, rfl, rfl, rfl⟩ := h')
    · simp [letterClass]
      omega
    · obtain rfl : n = 0x17F := by omega
      obtain rfl : u = 0x53 := by omega
      decide
    · obtain rfl : n = 0x212A := by omega
      obtain rfl : u = 0x4B := by omega
      decide
  · simp [letterClass, h]

/-- The class of a letter, by code points. -/
theorem sameCase_iff {k c : Char} {i : Nat} (hi : i < 26)
    (hk : k = Char.ofNat (i + 65) ∨ k = Char.ofNat (i + 97)) :
    sameCase k c = true ↔ c.toNat ∈ letterClass (i + 65) := by
  have hfirst : firstCase k.toNat = i + 65 := by
    have hlower : ∀ i < 26, (Char.ofNat (i + 65)).toNat = i + 65 ∧
        (Char.ofNat (i + 97)).toNat = i + 65 + 32 := by decide
    rcases hk with rfl | rfl
    · rw [(hlower i hi).1]
      exact firstCase_letterClass i hi _ (by simp [letterClass])
    · rw [(hlower i hi).2]
      exact firstCase_letterClass i hi _ (by simp [letterClass])
  rw [sameCase, hfirst, beq_iff_eq]
  constructor
  · exact fun h => mem_letterClass_of_firstCase h.symm (by omega)
  · exact fun h => (firstCase_letterClass i hi _ h).symm

/-! ## Sets of letters -/

theorem caseClosure_ranges : ∀ i < 26,
    (CharSet.single (Char.ofNat (i + 65))).caseClosure.ranges =
        (letterClass (i + 65)).map (fun n => (n, n)) ∧
      (CharSet.single (Char.ofNat (i + 97))).caseClosure.ranges =
        (letterClass (i + 65)).map (fun n => (n, n)) := by
  decide

theorem inRanges_map (n : Nat) (codes : List Nat) (h : codes.Pairwise (· < ·)) :
    CharSet.inRanges n (codes.map (fun m => (m, m))) = decide (n ∈ codes) := by
  induction codes with
  | nil => rfl
  | cons m codes ih =>
    obtain ⟨hm, h⟩ := List.pairwise_cons.mp h
    rw [List.map_cons, CharSet.inRanges]
    split_ifs with h₁ h₂
    · have hnot : n ∉ m :: codes := by
        intro hn
        rcases List.mem_cons.mp hn with rfl | hn
        · omega
        · have := hm n hn
          omega
      simp [hnot]
    · obtain rfl : n = m := by omega
      simp
    · have hne : n ≠ m := by omega
      rw [ih h]
      simp [hne]

theorem pairwise_letterClass : ∀ i < 26, (letterClass (i + 65)).Pairwise (· < ·) := by decide

/-- The set of a letter in either case holds the characters of its class. -/
theorem contains_caseClosure_single {k : Char} (hk : IsLetter k) (c : Char) :
    (CharSet.single k).caseClosure.contains c = sameCase k c := by
  obtain ⟨i, hi, hk⟩ := hk.cases
  have hranges : (CharSet.single k).caseClosure.ranges =
      (letterClass (i + 65)).map (fun n => (n, n)) := by
    rcases hk with rfl | rfl
    · exact (caseClosure_ranges i hi).1
    · exact (caseClosure_ranges i hi).2
  rw [CharSet.contains, hranges, inRanges_map _ _ (pairwise_letterClass i hi), Bool.eq_iff_iff,
    decide_eq_true_eq, sameCase_iff hi hk]

/-! ## Blanks -/

/-- The code points of the blank characters. -/
def blankCodes : List Nat :=
  [9, 10, 11, 12, 13, 32, 0x85, 0xA0, 0x1680] ++ List.range' 0x2000 11 ++
    [0x2028, 0x2029, 0x202F, 0x205F, 0x3000]

theorem mem_blankCodes {c : Char} (h : Text.isBlank c = true) : c.toNat ∈ blankCodes := by
  simp only [Text.isBlank, Bool.or_eq_true, Bool.and_eq_true, decide_eq_true_eq, beq_iff_eq] at h
  simp only [blankCodes, List.mem_append, List.mem_cons, List.mem_range'_1, List.not_mem_nil]
  omega

/-- All letters with their counterparts are word characters, and no blank is one. -/
theorem word_ranges :
    (∀ i < 26, ∀ n ∈ letterClass (i + 65), CharSet.inRanges n word.ranges = true) ∧
      ∀ n ∈ blankCodes, CharSet.inRanges n word.ranges = false := by
  decide +kernel

theorem isWord_of_sameCase {k c : Char} (hk : IsLetter k) (h : sameCase k c = true) :
    isWord c = true := by
  obtain ⟨i, hi, hk⟩ := hk.cases
  exact word_ranges.1 i hi _ ((sameCase_iff hi hk).mp h)

theorem isBlank_of_isWord {c : Char} (h : isWord c = true) : Text.isBlank c = false := by
  by_contra hblank
  have := word_ranges.2 _ (mem_blankCodes (by simpa using hblank))
  rw [isWord, CharSet.contains, this] at h
  cases h

theorem isBlank_of_sameCase {k c : Char} (hk : IsLetter k) (h : sameCase k c = true) :
    Text.isBlank c = false := by
  have hclass : ∀ i < 26, ∀ n ∈ letterClass (i + 65), n ∉ blankCodes := by decide
  obtain ⟨i, hi, hk⟩ := hk.cases
  by_contra hblank
  exact hclass i hi _ ((sameCase_iff hi hk).mp h) (mem_blankCodes (by simpa using hblank))

end ProgramOutline.Unicode
