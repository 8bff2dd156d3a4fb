import ProgramOutline.Proofs.Ascending
import ProgramOutline.Proofs.Text.Offset
import ProgramOutline.Text.Lines

/-!
# Line numbers by counting and by look-up

The line of an offset is one more than the number of line feeds before it. An index looks the offset
up among the line starts instead; the line starts are ascending, so bisection counts them.

Results:
* `breaksBefore_eq_countP`: line feeds before an offset are line starts up to it.
* `LineIndex.lineOf_ofText`: the index of a text gives the lines that counting gives.
* `breaksBefore_mono`, `breaksBefore_lt_of_getLast?`: later offsets are not on earlier lines.
* `breaksBefore_append`, `breaksBefore_append_of_le`: line feeds before an offset of two texts in
  sequence.
-/

namespace ProgramOutline.Text

/-! ## Line starts -/

theorem lineStarts_cons (offset : Nat) (c : Char) (rest : List Char) :
    lineStarts offset (c :: rest) =
      if c = '\n' then (offset + c.utf8Size) :: lineStarts (offset + c.utf8Size) rest
      else lineStarts (offset + c.utf8Size) rest := rfl

theorem mem_lineStarts_cons {offset n : Nat} {c : Char} {rest : List Char} :
    n ∈ lineStarts offset (c :: rest) ↔
      (c = '\n' ∧ n = offset + c.utf8Size) ∨ n ∈ lineStarts (offset + c.utf8Size) rest := by
  rw [lineStarts_cons]
  split <;> simp [*]

theorem breaksBefore_zero (text : List Char) : breaksBefore 0 text = 0 := by
  cases text <;> rfl

theorem breaksBefore_succ (n : Nat) (c : Char) (rest : List Char) :
    breaksBefore (n + 1) (c :: rest) =
      (if c = '\n' then 1 else 0) + breaksBefore (n + 1 - c.utf8Size) rest := rfl

theorem lt_of_mem_lineStarts {offset n : Nat} {text : List Char}
    (h : n ∈ lineStarts offset text) : offset < n := by
  induction text generalizing offset with
  | nil => cases h
  | cons c rest ih =>
    have hpos := Char.utf8Size_pos c
    rw [mem_lineStarts_cons] at h
    rcases h with ⟨-, rfl⟩ | h
    · omega
    · have := ih h
      omega

theorem le_of_mem_lineStarts {offset n : Nat} {text : List Char}
    (h : n ∈ lineStarts offset text) : n ≤ offset + byteLength text := by
  induction text generalizing offset with
  | nil => cases h
  | cons c rest ih =>
    rw [byteLength_cons]
    rw [mem_lineStarts_cons] at h
    rcases h with ⟨-, rfl⟩ | h
    · omega
    · have := ih h
      omega

theorem pairwise_lineStarts (offset : Nat) (text : List Char) :
    (lineStarts offset text).Pairwise (· < ·) := by
  induction text generalizing offset with
  | nil => exact .nil
  | cons c rest ih =>
    rw [lineStarts_cons]
    split
    · exact List.pairwise_cons.mpr ⟨fun n hn => lt_of_mem_lineStarts hn, ih _⟩
    · exact ih _

/-- Counting the line feeds before an offset is counting the line starts up to it. -/
theorem breaksBefore_eq_countP (offset n : Nat) (text : List Char) :
    breaksBefore n text = (lineStarts offset text).countP (· ≤ offset + n) := by
  induction text generalizing offset n with
  | nil => cases n <;> rfl
  | cons c rest ih =>
    have hpos := Char.utf8Size_pos c
    -- nothing starts up to an offset inside of the first character
    have hnone : ∀ m < c.utf8Size,
        (lineStarts (offset + c.utf8Size) rest).countP (· ≤ offset + m) = 0 := by
      intro m hm
      rw [List.countP_eq_zero]
      intro k hk
      have := lt_of_mem_lineStarts hk
      simp only [decide_eq_true_eq]
      omega
    cases n with
    | zero =>
      have := hnone 0 hpos
      rw [breaksBefore_zero, lineStarts_cons]
      split
      · rw [List.countP_cons, this]
        simp
        omega
      · rw [this]
    | succ n =>
      have hrest : breaksBefore (n + 1 - c.utf8Size) rest =
          (lineStarts (offset + c.utf8Size) rest).countP (· ≤ offset + (n + 1)) := by
        rcases Nat.lt_or_ge (n + 1) c.utf8Size with hlt | hge
        · rw [hnone _ hlt, show n + 1 - c.utf8Size = 0 by omega, breaksBefore_zero]
        · rw [ih (offset + c.utf8Size), show offset + c.utf8Size + (n + 1 - c.utf8Size) =
            offset + (n + 1) by omega]
      rw [breaksBefore_succ, lineStarts_cons, hrest]
      split
      · rename_i hc
        have hsize : c.utf8Size = 1 := by rw [hc]; rfl
        rw [List.countP_cons, hsize, if_pos (by simp), Nat.add_comm]
      · rw [Nat.zero_add]

theorem breaksBefore_min (n : Nat) (text : List Char) :
    breaksBefore (min n (byteLength text)) text = breaksBefore n text := by
  rw [breaksBefore_eq_countP 0, breaksBefore_eq_countP 0 n]
  apply List.countP_congr
  intro k hk
  have := le_of_mem_lineStarts hk
  simp only [decide_eq_true_eq]
  omega

theorem breaksBefore_mono {m n : Nat} (h : m ≤ n) (text : List Char) :
    breaksBefore m text ≤ breaksBefore n text := by
  rw [breaksBefore_eq_countP 0 m, breaksBefore_eq_countP 0 n]
  apply List.countP_mono_left
  intro start _ hle
  simp only [decide_eq_true_eq] at hle ⊢
  omega

/-! ## Texts in sequence -/

theorem breaksBefore_append_of_le {n : Nat} {a b : List Char} (h : n ≤ byteLength a) :
    breaksBefore n (a ++ b) = breaksBefore n a := by
  induction a generalizing n with
  | nil =>
    obtain rfl : n = 0 := by simpa using h
    rw [breaksBefore_zero, breaksBefore_zero]
  | cons c rest ih =>
    cases n with
    | zero => rw [breaksBefore_zero, breaksBefore_zero]
    | succ n =>
      rw [byteLength_cons] at h
      rw [List.cons_append, breaksBefore_succ, breaksBefore_succ, ih (by omega)]

theorem breaksBefore_append (a b : List Char) (n : Nat) :
    breaksBefore (byteLength a + n) (a ++ b) = a.count '\n' + breaksBefore n b := by
  induction a with
  | nil => simp
  | cons c rest ih =>
    have hpos := Char.utf8Size_pos c
    obtain ⟨m, hm⟩ : ∃ m, byteLength (c :: rest) + n = m + 1 :=
      ⟨byteLength (c :: rest) + n - 1, by rw [byteLength_cons]; omega⟩
    have hrest : m + 1 - c.utf8Size = byteLength rest + n := by
      rw [← hm, byteLength_cons]
      omega
    rw [hm, List.cons_append, breaksBefore_succ, hrest, ih, List.count_cons]
    by_cases hc : c = '\n'
    · simp [hc]
      omega
    · simp [hc]

theorem breaksBefore_byteLength (a b : List Char) :
    breaksBefore (byteLength a) (a ++ b) = a.count '\n' := by
  rw [← Nat.add_zero (byteLength a), breaksBefore_append, breaksBefore_zero, Nat.add_zero]

/-- An offset inside of a text that ends a line is on an earlier line than what follows the text. -/
theorem breaksBefore_lt_of_getLast? {a : List Char} (hline : a.getLast? = some '\n') (b : List Char)
    {n : Nat} (h : n < byteLength a) :
    breaksBefore n (a ++ b) < breaksBefore (byteLength a) (a ++ b) := by
  obtain ⟨start, rfl⟩ := List.getLast?_eq_some_iff.mp hline
  have hle : n ≤ byteLength start := by
    have hsize : '\n'.utf8Size = 1 := rfl
    rw [byteLength_append, byteLength_cons, byteLength_nil, hsize] at h
    omega
  calc breaksBefore n (start ++ ['\n'] ++ b)
      ≤ breaksBefore (byteLength start) (start ++ ['\n'] ++ b) := breaksBefore_mono hle _
    _ = start.count '\n' := by rw [List.append_assoc, breaksBefore_byteLength]
    _ < (start ++ ['\n']).count '\n' := by simp
    _ = breaksBefore (byteLength (start ++ ['\n'])) (start ++ ['\n'] ++ b) :=
        (breaksBefore_byteLength ..).symm

end ProgramOutline.Text

namespace ProgramOutline.LineIndex

theorem foldl_utf8Size (n : Nat) (text : List Char) :
    text.foldl (fun n c => n + c.utf8Size) n = n + Text.byteLength text := by
  induction text generalizing n with
  | nil => rfl
  | cons c rest ih =>
    rw [List.foldl_cons, ih, Text.byteLength_cons]
    omega

theorem length_ofText (text : List Char) : (ofText text).length = Text.byteLength text := by
  rw [ofText, foldl_utf8Size, Nat.zero_add]

theorem pairwise_starts (text : List Char) : (ofText text).starts.toList.Pairwise (· < ·) :=
  List.pairwise_cons.mpr
    ⟨fun _ hn => Text.lt_of_mem_lineStarts hn, Text.pairwise_lineStarts 0 text⟩

/-- Looking an offset up in the index gives the line that counting gives. -/
theorem lineOf_ofText (text : List Char) (offset : Nat) :
    (ofText text).lineOf offset = Text.lineOf text offset := by
  have hcount : (ofText text).starts.toList.countP (· ≤ min offset (Text.byteLength text)) =
      Text.breaksBefore offset text + 1 := by
    rw [← Text.breaksBefore_min, Text.breaksBefore_eq_countP 0]
    simp [ofText]
  rw [lineOf, length_ofText, Ascending.rank_eq_countP (pairwise_starts text), hcount, Text.lineOf]

end ProgramOutline.LineIndex
