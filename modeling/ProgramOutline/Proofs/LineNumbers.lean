import ProgramOutline.Proofs.Text.Bytes
import ProgramOutline.Proofs.Text.Lines

/-!
# Line numbers by the bytes of a text

The line of an offset is found by counting line feeds, or by bisection among the stored line starts.
Both walk over characters; here they are compared with the bytes of the text, where an offset may
fall anywhere, inside of a character or past the end. A line feed is a byte of its own and no other
character has this byte, so nothing is lost by a cut inside of a character.

Results:
* `Text.breaksBefore_eq_count`: line feeds before an offset, counted in the bytes.
* `Text.toNat_lineOf`: a line number is exact as long as the text has fewer than `2 ^ 32` lines.
* `LineIndex.lineOf_exact`: the two ways and the bytes agree for every text and every offset.
-/

namespace ProgramOutline

namespace Text

/-! ## Line feeds -/

/-- The bytes of every other character differ from a line feed. -/
theorem break_notMem_utf8EncodeChar {c : Char} (hc : c ≠ '\n') :
    0x0A ∉ String.utf8EncodeChar c := by
  intro hmem
  have hcode : c.toNat = '\n'.toNat := toNat_of_mem_utf8EncodeChar hmem (by decide)
  exact hc (Char.toNat_inj.mp hcode)

/-- Counting the line feeds among the first bytes of a text. A cut inside of a character cuts no
    line feed. -/
theorem breaksBefore_eq_count (n : Nat) (text : List Char) :
    breaksBefore n text = ((bytes text).take n).count 0x0A := by
  induction text generalizing n with
  | nil => cases n <;> rfl
  | cons c rest ih =>
    cases n with
    | zero => rfl
    | succ n =>
      have hlength := String.length_utf8EncodeChar c
      rw [breaksBefore_succ, ih, bytes_cons, List.take_append, List.count_append, hlength]
      congr 1
      by_cases hc : c = '\n'
      · subst hc
        rw [if_pos rfl, show String.utf8EncodeChar '\n' = [0x0A] by decide, List.take_succ_cons,
          List.take_nil]
        rfl
      · have hnone : 0x0A ∉ (String.utf8EncodeChar c).take (n + 1) :=
          fun hmem => break_notMem_utf8EncodeChar hc (List.mem_of_mem_take hmem)
        rw [if_neg hc, List.count_eq_zero.mpr hnone]

/-! ## Line numbers -/

/-- Offsets past the end count as the end. -/
theorem breaksBefore_clamped (offset : Nat) (text : List Char) :
    breaksBefore offset text =
      ((bytes text).take (min offset (bytes text).length)).count 0x0A := by
  rw [← breaksBefore_eq_count, length_bytes, breaksBefore_min]

theorem breaksBefore_end (text : List Char) :
    breaksBefore (byteLength text) text = text.count '\n' := by
  simpa using breaksBefore_byteLength text []

theorem breaksBefore_le_count (n : Nat) (text : List Char) :
    breaksBefore n text ≤ text.count '\n' := by
  rw [← breaksBefore_end, ← breaksBefore_min]
  exact breaksBefore_mono (Nat.min_le_right ..) text

/-- In a text of fewer than `2 ^ 32` lines no line number is cut off. -/
theorem toNat_lineOf {text : List Char} (h : text.count '\n' + 1 < 2 ^ 32) (offset : Nat) :
    (lineOf text offset).toNat = breaksBefore offset text + 1 := by
  have := breaksBefore_le_count offset text
  rw [lineOf, UInt32.toNat_ofNat_of_lt' (by rw [UInt32.size]; omega)]

end Text

namespace LineIndex

theorem length_lineStarts (offset : Nat) (text : List Char) :
    (Text.lineStarts offset text).length = text.count '\n' := by
  induction text generalizing offset with
  | nil => rfl
  | cons c rest ih =>
    rw [Text.lineStarts_cons, List.count_cons]
    by_cases hc : c = '\n' <;> simp [hc, ih]

theorem lineCount_ofText (text : List Char) :
    (ofText text).lineCount = text.count '\n' + 1 := by
  simp [lineCount, ofText, length_lineStarts]

/-- **Line numbers are exact.** For every text and every offset, past the end or inside of a
    character as well, bisection gives the number that counting gives, which is one more than the
    number of line feeds among the bytes before the offset, as a word of 32 bits. The line starts
    ascend from 0. In a text of fewer than `2 ^ 32` lines the numbers ascend with the offset, from 1
    to the number of lines, which is the number of the line at the end. -/
theorem lineOf_exact (text : List Char) :
    (∀ offset, (ofText text).lineOf offset = Text.lineOf text offset ∧
      (Text.lineOf text offset).toNat =
        (1 + ((Text.bytes text).take (min offset (Text.bytes text).length)).count 0x0A) % 2 ^ 32) ∧
    (ofText text).starts.toList.head? = some 0 ∧
    (ofText text).starts.toList.Pairwise (· < ·) ∧
    (text.count '\n' + 1 < 2 ^ 32 →
      (∀ m n, m ≤ n → Text.lineOf text m ≤ Text.lineOf text n) ∧
      (∀ offset, 1 ≤ Text.lineOf text offset ∧
        (Text.lineOf text offset).toNat ≤ (ofText text).lineCount) ∧
      (ofText text).lineCount = (Text.lineOf text (Text.bytes text).length).toNat) := by
  refine ⟨fun offset => ⟨lineOf_ofText text offset, ?_⟩, rfl, pairwise_starts text, ?_⟩
  · rw [Text.lineOf, Text.breaksBefore_clamped, UInt32.toNat_ofNat', Nat.add_comm]
  · intro hlines
    refine ⟨fun m n hmn => ?_, fun offset => ⟨?_, ?_⟩, ?_⟩
    · rw [UInt32.le_iff_toNat_le, Text.toNat_lineOf hlines, Text.toNat_lineOf hlines]
      exact Nat.succ_le_succ (Text.breaksBefore_mono hmn text)
    · rw [UInt32.le_iff_toNat_le, Text.toNat_lineOf hlines]
      exact Nat.succ_le_succ (Nat.zero_le _)
    · rw [Text.toNat_lineOf hlines, lineCount_ofText]
      exact Nat.succ_le_succ (Text.breaksBefore_le_count offset text)
    · rw [Text.toNat_lineOf hlines, Text.length_bytes, Text.breaksBefore_end, lineCount_ofText]

/-- Two lines; the second one starts with a character of two bytes, and the offset falls between
    these. -/
theorem lineOf_exact_inside :
    "a\né".toList.count '\n' + 1 < 2 ^ 32 ∧
      Text.lineOf "a\né".toList 1 ≤ Text.lineOf "a\né".toList 3 ∧
      1 ≤ Text.lineOf "a\né".toList 3 ∧
      (Text.lineOf "a\né".toList 3).toNat ≤ (ofText "a\né".toList).lineCount ∧
      (ofText "a\né".toList).lineCount =
        (Text.lineOf "a\né".toList (Text.bytes "a\né".toList).length).toNat := by
  have hlines : "a\né".toList.count '\n' + 1 < 2 ^ 32 := by decide
  obtain ⟨hmono, hbounds, hcount⟩ := (lineOf_exact "a\né".toList).2.2.2 hlines
  exact ⟨hlines, hmono 1 3 (by decide), (hbounds 3).1, (hbounds 3).2, hcount⟩

end LineIndex

end ProgramOutline
