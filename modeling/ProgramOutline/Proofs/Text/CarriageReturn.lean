import ProgramOutline.Proofs.Text.Lines
import ProgramOutline.Text.Blank
import ProgramOutline.Text.Pieces

/-!
# Carriage returns before line feeds

`crlf` puts a carriage return before every line feed. Cutting a text in places that do not tell the
two characters apart commutes with it, and offsets move on by the line feeds before them.

Results:
* `crlf_append`, `byteLength_crlf`, `crlf_of_notMem`: the text as a whole.
* `takeWhile_crlf`, `dropWhile_crlf`, `stripWhile_crlf`, `splitOn_crlf`: its parts.
* `crlfOffset_lt_iff`, `crlfOffset_byteLength`: the offsets of its characters.
-/

namespace ProgramOutline.Text

/-- The text with a carriage return before every line feed. -/
def crlf (text : List Char) : List Char :=
  text.flatMap (fun c => if c = '\n' then ['\r', '\n'] else [c])

@[simp]
theorem crlf_nil : crlf [] = [] := rfl

@[simp]
theorem crlf_cons_break (rest : List Char) : crlf ('\n' :: rest) = '\r' :: '\n' :: crlf rest := rfl

theorem crlf_cons {c : Char} (hc : c ≠ '\n') (rest : List Char) :
    crlf (c :: rest) = c :: crlf rest := by
  rw [crlf, List.flatMap_cons, if_neg hc]
  rfl

@[simp]
theorem crlf_append (a b : List Char) : crlf (a ++ b) = crlf a ++ crlf b := List.flatMap_append

theorem crlf_of_notMem {text : List Char} (h : '\n' ∉ text) : crlf text = text := by
  induction text with
  | nil => rfl
  | cons c rest ih =>
    rw [List.mem_cons, not_or] at h
    rw [crlf_cons (Ne.symm h.1), ih h.2]

@[simp]
theorem crlf_eq_nil {text : List Char} : crlf text = [] ↔ text = [] := by
  cases text with
  | nil => simp
  | cons c rest =>
    by_cases hc : c = '\n'
    · subst hc
      simp
    · simp [crlf_cons hc]

/-- A text that starts with another character than a carriage return starts so without the
    carriage returns. -/
theorem of_crlf_eq_cons {c : Char} {text rest : List Char} (hc : c ≠ '\r')
    (h : crlf text = c :: rest) : ∃ rest', text = c :: rest' ∧ rest = crlf rest' := by
  cases text with
  | nil => cases h
  | cons d rest' =>
    by_cases hd : d = '\n'
    · subst hd
      rw [crlf_cons_break, List.cons.injEq] at h
      exact absurd h.1.symm hc
    · rw [crlf_cons hd, List.cons.injEq] at h
      obtain ⟨rfl, rfl⟩ := h
      exact ⟨rest', rfl, rfl⟩

theorem mem_crlf_break {text : List Char} : '\n' ∈ crlf text ↔ '\n' ∈ text := by
  induction text with
  | nil => rfl
  | cons c rest ih =>
    by_cases hc : c = '\n'
    · subst hc
      simp
    · rw [crlf_cons hc, List.mem_cons, List.mem_cons, ih]

theorem count_crlf (text : List Char) : (crlf text).count '\n' = text.count '\n' := by
  induction text with
  | nil => rfl
  | cons c rest ih =>
    by_cases hc : c = '\n'
    · subst hc
      simp [ih]
    · rw [crlf_cons hc, List.count_cons, List.count_cons, ih]

theorem byteLength_crlf (text : List Char) :
    byteLength (crlf text) = byteLength text + text.count '\n' := by
  induction text with
  | nil => rfl
  | cons c rest ih =>
    by_cases hc : c = '\n'
    · subst hc
      have hreturn : '\r'.utf8Size = 1 := rfl
      rw [crlf_cons_break, byteLength_cons, byteLength_cons, byteLength_cons, ih, hreturn,
        List.count_cons_self]
      omega
    · rw [crlf_cons hc, byteLength_cons, byteLength_cons, ih, List.count_cons_of_ne hc]
      omega

/-! ## Parts -/

section Parts

variable {p : Char → Bool}

theorem takeWhile_crlf (hp : p '\r' = p '\n') (text : List Char) :
    (crlf text).takeWhile p = crlf (text.takeWhile p) := by
  induction text with
  | nil => rfl
  | cons c rest ih =>
    by_cases hc : c = '\n'
    · subst hc
      by_cases hbreak : p '\n' = true
      · simp [hp, hbreak, ih]
      · simp [hp, hbreak]
    · rw [crlf_cons hc, List.takeWhile_cons, List.takeWhile_cons]
      split
      · rw [ih, crlf_cons hc]
      · rfl

theorem dropWhile_crlf (hp : p '\r' = p '\n') (text : List Char) :
    (crlf text).dropWhile p = crlf (text.dropWhile p) := by
  induction text with
  | nil => rfl
  | cons c rest ih =>
    by_cases hc : c = '\n'
    · subst hc
      by_cases hbreak : p '\n' = true
      · simp [hp, hbreak, ih]
      · simp [hp, hbreak]
    · rw [crlf_cons hc, List.dropWhile_cons, List.dropWhile_cons]
      split
      · exact ih
      · rw [crlf_cons hc]

theorem dropEndWhile_append_singleton (text : List Char) (c : Char) :
    dropEndWhile p (text ++ [c]) = if p c then dropEndWhile p text else text ++ [c] := by
  rw [dropEndWhile, List.reverse_append, List.reverse_singleton, List.singleton_append,
    List.dropWhile_cons]
  split
  · rfl
  · simp

theorem dropEndWhile_crlf (hp : p '\r' = p '\n') (text : List Char) :
    dropEndWhile p (crlf text) = crlf (dropEndWhile p text) := by
  induction text using List.reverseRecOn with
  | nil => rfl
  | append_singleton text c ih =>
    rw [crlf_append, dropEndWhile_append_singleton]
    by_cases hc : c = '\n'
    · subst hc
      rw [crlf_cons_break, crlf_nil, show crlf text ++ ['\r', '\n'] = crlf text ++ ['\r'] ++ ['\n']
        by simp, dropEndWhile_append_singleton, dropEndWhile_append_singleton, hp]
      split
      · exact ih
      · simp
    · rw [crlf_cons hc, crlf_nil, dropEndWhile_append_singleton]
      split
      · exact ih
      · rw [crlf_append, crlf_cons hc, crlf_nil]

theorem stripWhile_crlf (hp : p '\r' = p '\n') (text : List Char) :
    stripWhile p (crlf text) = crlf (stripWhile p text) := by
  rw [stripWhile, stripWhile, dropWhile_crlf hp, dropEndWhile_crlf hp]

theorem trim_crlf (text : List Char) : trim (crlf text) = crlf (trim text) :=
  stripWhile_crlf (by decide) text

end Parts

theorem splitOn_crlf {sep : Char} (hreturn : sep ≠ '\r') (hbreak : sep ≠ '\n') (text : List Char) :
    splitOn sep (crlf text) = (splitOn sep text).map crlf := by
  induction text with
  | nil => rfl
  | cons c rest ih =>
    obtain ⟨piece, pieces, hsplit⟩ := List.exists_cons_of_ne_nil (splitOn_ne_nil sep rest)
    rw [hsplit, List.map_cons] at ih
    by_cases hc : c = '\n'
    · subst hc
      rw [crlf_cons_break, splitOn_cons, if_neg hreturn.symm, splitOn_cons, if_neg hbreak.symm, ih,
        splitOn_cons, if_neg hbreak.symm, hsplit]
      rfl
    · rw [crlf_cons hc, splitOn_cons, splitOn_cons]
      split
      · rw [ih, hsplit]
        rfl
      · rw [ih, hsplit, List.map_cons, crlf_cons hc]

/-! ## Offsets -/

/-- Where the character at an offset stands after carriage returns have been put in. -/
def crlfOffset (text : List Char) (offset : Nat) : Nat := offset + breaksBefore offset text

theorem crlfOffset_lt_iff (text : List Char) {m n : Nat} :
    crlfOffset text m < crlfOffset text n ↔ m < n := by
  unfold crlfOffset
  constructor
  · intro h
    by_contra hle
    have := breaksBefore_mono (not_lt.mp hle) text
    omega
  · intro h
    have := breaksBefore_mono h.le text
    omega

theorem crlfOffset_le_iff (text : List Char) {m n : Nat} :
    crlfOffset text m ≤ crlfOffset text n ↔ m ≤ n := by
  rw [← not_lt, crlfOffset_lt_iff, not_lt]

theorem crlfOffset_byteLength (a b : List Char) :
    crlfOffset (a ++ b) (byteLength a) = byteLength (crlf a) := by
  rw [crlfOffset, breaksBefore_byteLength, byteLength_crlf]

theorem crlfOffset_append_of_le {n : Nat} {a : List Char} (h : n ≤ byteLength a) (b : List Char) :
    crlfOffset (a ++ b) n = crlfOffset a n := by
  rw [crlfOffset, crlfOffset, breaksBefore_append_of_le h]

theorem lineOf_crlf (a b : List Char) :
    lineOf (crlf (a ++ b)) (byteLength (crlf a)) = lineOf (a ++ b) (byteLength a) := by
  rw [lineOf, lineOf, crlf_append, breaksBefore_byteLength, breaksBefore_byteLength, count_crlf]

end ProgramOutline.Text
