import ProgramOutline.Proofs.Separator
import ProgramOutline.Proofs.Unicode.Letters
import ProgramOutline.Text.Case
import ProgramOutline.Text.Lines

/-!
# A text in lower case

`lower` puts the capital letters of ASCII into lower case and leaves all other characters alone.
Nothing moves: every character takes as many bytes as before, and gaps, word characters, blanks,
line feeds and signs stay what they are. Two texts are equal up to case if they are the same in
lower case.

Results:
* `equalIgnoringCase_iff`: equality up to case.
* `toLower_eq_iff`, `IgnoresCase`: characters and classes of characters that case does not touch.
* `takeWhile_lower`, `dropWhile_lower`, `stripWhile_lower`, `splitOn_lower`: parts of a text.
* `byteLength_lower`, `takeBytes_lower`, `lineOf_lower`: offsets.
* `map_lowerByte_bytes`: the bytes of a text in lower case.
-/

namespace ProgramOutline

open Unicode

/-- A text in lower case, as far as ASCII letters are concerned. -/
def Text.lower (text : List Char) : List Char := text.map Char.toLower

/-! ## Characters -/

theorem toLower_of_not_isLetter {c : Char} (h : ¬ IsLetter c) : c.toLower = c := by
  have hcapital : ∀ i < 26, IsLetter (Char.ofNat (i + 65)) := by decide
  rcases toLower_cases c with hc | ⟨i, hi, rfl⟩
  · exact hc
  · exact absurd (hcapital i hi) h

theorem isLetter_toLower {c : Char} (h : IsLetter c) : IsLetter c.toLower := by
  have hcapital : ∀ i < 26, IsLetter (Char.ofNat (i + 65)).toLower := by decide
  rcases toLower_cases c with hc | ⟨i, hi, rfl⟩
  · rwa [hc]
  · exact hcapital i hi

/-- Only letters have letters for lower case. -/
theorem toLower_eq_iff {c d : Char} (hd : ¬ IsLetter d) : c.toLower = d ↔ c = d := by
  by_cases hc : IsLetter c
  · have hlower := isLetter_toLower hc
    constructor
    · rintro rfl
      exact absurd hlower hd
    · rintro rfl
      exact absurd hc hd
  · rw [toLower_of_not_isLetter hc]

/-- A class of characters holds a letter in both cases or in none. -/
def IgnoresCase (p : Char → Bool) : Prop := ∀ c : Char, p c.toLower = p c

/-- A class that holds all letters, or none, ignores case. -/
theorem IgnoresCase.of_letters {p : Char → Bool} (b : Bool) (h : ∀ c, IsLetter c → p c = b) :
    IgnoresCase p := by
  intro c
  by_cases hc : IsLetter c
  · rw [h _ (isLetter_toLower hc), h c hc]
  · rw [toLower_of_not_isLetter hc]

theorem ignoresCase_isWord : IgnoresCase isWord :=
  .of_letters true (fun c hc => isWord_of_sameCase hc (by simp [sameCase]))

theorem ignoresCase_isBlank : IgnoresCase Text.isBlank :=
  .of_letters false (fun c hc => isBlank_of_sameCase hc (by simp [sameCase]))

theorem IgnoresCase.beq {d : Char} (hd : ¬ IsLetter d) : IgnoresCase (· == d) := by
  intro c
  rw [Bool.eq_iff_iff, beq_iff_eq, beq_iff_eq, toLower_eq_iff hd]

theorem IgnoresCase.bne {d : Char} (hd : ¬ IsLetter d) : IgnoresCase (· != d) := by
  intro c
  have hbeq : (c.toLower == d) = (c == d) := IgnoresCase.beq hd c
  change (!(c.toLower == d)) = !(c == d)
  rw [hbeq]

theorem IgnoresCase.or {p q : Char → Bool} (hp : IgnoresCase p) (hq : IgnoresCase q) :
    IgnoresCase (fun c => p c || q c) := by
  intro c
  dsimp only
  rw [hp c, hq c]

namespace Text

theorem equalIgnoringCase_iff {a b : List Char} :
    equalIgnoringCase a b = true ↔ lower a = lower b := by
  induction a generalizing b with
  | nil => cases b <;> simp [equalIgnoringCase, lower]
  | cons c a ih =>
    cases b with
    | nil => simp [equalIgnoringCase, lower]
    | cons d b => simpa [equalIgnoringCase, lower] using fun _ => ih

@[simp]
theorem lower_nil : lower [] = [] := rfl

@[simp]
theorem lower_cons (c : Char) (text : List Char) : lower (c :: text) = c.toLower :: lower text :=
  rfl

@[simp]
theorem lower_append (a b : List Char) : lower (a ++ b) = lower a ++ lower b := List.map_append ..

@[simp]
theorem lower_isEmpty (text : List Char) : (lower text).isEmpty = text.isEmpty :=
  List.isEmpty_map ..

/-! ## Parts -/

section Parts

variable {p : Char → Bool} (hp : IgnoresCase p)
include hp

theorem takeWhile_lower (text : List Char) :
    (lower text).takeWhile p = lower (text.takeWhile p) := by
  have hcomp : p ∘ Char.toLower = p := funext hp
  rw [lower, List.takeWhile_map, hcomp, lower]

theorem dropWhile_lower (text : List Char) :
    (lower text).dropWhile p = lower (text.dropWhile p) := by
  have hcomp : p ∘ Char.toLower = p := funext hp
  rw [lower, List.dropWhile_map, hcomp, lower]

theorem stripWhile_lower (text : List Char) :
    stripWhile p (lower text) = lower (stripWhile p text) := by
  have hreverse : ∀ text, (lower text).reverse = lower text.reverse :=
    fun text => List.map_reverse.symm
  rw [stripWhile, stripWhile, dropWhile_lower hp, dropEndWhile, dropEndWhile, hreverse,
    dropWhile_lower hp, hreverse]

end Parts

theorem splitOn_lower {sep : Char} (hsep : ¬ IsLetter sep) (text : List Char) :
    splitOn sep (lower text) = (splitOn sep text).map lower := by
  induction text with
  | nil => rfl
  | cons c rest ih =>
    obtain ⟨piece, pieces, hsplit⟩ := List.exists_cons_of_ne_nil (splitOn_ne_nil sep rest)
    rw [lower_cons, splitOn_cons, splitOn_cons, ih, hsplit]
    simp only [toLower_eq_iff hsep]
    split <;> rfl

/-! ## Offsets -/

@[simp]
theorem byteLength_lower (text : List Char) : byteLength (lower text) = byteLength text := by
  induction text with
  | nil => rfl
  | cons c rest ih => rw [lower_cons, byteLength_cons, byteLength_cons, utf8Size_toLower, ih]

theorem takeBytes_lower (n : Nat) (text : List Char) :
    takeBytes n (lower text) = lower (takeBytes n text) := by
  induction text generalizing n with
  | nil => cases n <;> rfl
  | cons c rest ih =>
    cases n with
    | zero => rfl
    | succ n => rw [lower_cons, takeBytes, takeBytes, utf8Size_toLower, ih, lower_cons]

theorem breaksBefore_lower (n : Nat) (text : List Char) :
    breaksBefore n (lower text) = breaksBefore n text := by
  have hbreak : ¬ IsLetter '\n' := by decide
  induction text generalizing n with
  | nil => cases n <;> rfl
  | cons c rest ih =>
    cases n with
    | zero => rfl
    | succ n =>
      rw [lower_cons, breaksBefore, breaksBefore, utf8Size_toLower, ih]
      simp only [toLower_eq_iff hbreak]

theorem lineOf_lower (text : List Char) (offset : Nat) :
    lineOf (lower text) offset = lineOf text offset := by
  rw [lineOf, lineOf, breaksBefore_lower]

/-! ## Bytes -/

/-- A byte in lower case, if it is a capital letter of ASCII. -/
def lowerByte (b : UInt8) : UInt8 := if 0x41 ≤ b ∧ b ≤ 0x5A then b + 0x20 else b

/-- A capital letter is a byte of its own, and no other character has such a byte. -/
theorem map_lowerByte_utf8EncodeChar (c : Char) :
    (String.utf8EncodeChar c).map lowerByte = String.utf8EncodeChar c.toLower := by
  have hcapital : ∀ i < 26, (Char.ofNat (i + 65)).toLower ≠ Char.ofNat (i + 65) ∧
      (String.utf8EncodeChar (Char.ofNat (i + 65))).map lowerByte =
        String.utf8EncodeChar (Char.ofNat (i + 65)).toLower := by decide
  rcases toLower_cases c with hc | ⟨i, hi, rfl⟩
  · have hfixed : ∀ b ∈ String.utf8EncodeChar c, lowerByte b = b := by
      intro b hb
      refine if_neg (fun hletter => ?_)
      have hfirst : 65 ≤ b.toNat := hletter.1
      have hlast : b.toNat ≤ 90 := hletter.2
      have hcode := toNat_of_mem_utf8EncodeChar hb (by omega)
      have hmoved := (hcapital (c.toNat - 65) (by omega)).1
      rw [Nat.sub_add_cancel (by omega), Char.ofNat_toNat] at hmoved
      exact hmoved hc
    rw [hc, List.map_congr_left hfixed, List.map_id']
  · exact (hcapital i hi).2

theorem map_lowerByte_bytes (text : List Char) :
    (bytes text).map lowerByte = bytes (lower text) := by
  induction text with
  | nil => rfl
  | cons c rest ih =>
    rw [bytes_cons, List.map_append, map_lowerByte_utf8EncodeChar, ih, lower_cons, bytes_cons]

end Text

end ProgramOutline
