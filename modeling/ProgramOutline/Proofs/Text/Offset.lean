import Mathlib.Tactic
import ProgramOutline.Text.Offset

/-!
# Cutting a text at the byte length of its start

Byte offsets that are the length of a start of the text fall between two characters, and there
`takeBytes`, `dropBytes` and `slice` cut a text like `take`, `drop` and a stretch of a list.

Results:
* `takeBytes_append`, `dropBytes_append`: cutting after a start and `n` more bytes.
* `cut_at_offset`: there is one way to cut a text at an offset.
* `slice_append`: the stretch between two such offsets.
-/

namespace ProgramOutline.Text

theorem byteLength_eq_zero {text : List Char} : byteLength text = 0 ↔ text = [] := by
  cases text with
  | nil => simp
  | cons c rest =>
    have := Char.utf8Size_pos c
    simp
    omega

@[simp]
theorem takeBytes_zero (text : List Char) : takeBytes 0 text = [] := by
  cases text <;> rfl

@[simp]
theorem dropBytes_zero (text : List Char) : dropBytes 0 text = text := by
  cases text <;> rfl

theorem takeBytes_cons (c : Char) (rest : List Char) (n : Nat) :
    takeBytes (c.utf8Size + n) (c :: rest) = c :: takeBytes n rest := by
  have hpos := Char.utf8Size_pos c
  obtain ⟨m, hm⟩ : ∃ m, c.utf8Size + n = m + 1 := ⟨c.utf8Size + n - 1, by omega⟩
  have htake : takeBytes (m + 1) (c :: rest) = c :: takeBytes (m + 1 - c.utf8Size) rest := rfl
  rw [hm, htake, show m + 1 - c.utf8Size = n by omega]

theorem dropBytes_cons (c : Char) (rest : List Char) (n : Nat) :
    dropBytes (c.utf8Size + n) (c :: rest) = dropBytes n rest := by
  have hpos := Char.utf8Size_pos c
  obtain ⟨m, hm⟩ : ∃ m, c.utf8Size + n = m + 1 := ⟨c.utf8Size + n - 1, by omega⟩
  have hdrop : dropBytes (m + 1) (c :: rest) = dropBytes (m + 1 - c.utf8Size) rest := rfl
  rw [hm, hdrop, show m + 1 - c.utf8Size = n by omega]

theorem takeBytes_append (a b : List Char) (n : Nat) :
    takeBytes (byteLength a + n) (a ++ b) = a ++ takeBytes n b := by
  induction a with
  | nil => simp
  | cons c rest ih => rw [byteLength_cons, Nat.add_assoc, List.cons_append, takeBytes_cons, ih]; rfl

theorem takeBytes_append_of_le {n : Nat} {a : List Char} (h : n ≤ byteLength a) (b : List Char) :
    takeBytes n (a ++ b) = takeBytes n a := by
  induction a generalizing n with
  | nil =>
    obtain rfl : n = 0 := by simpa using h
    simp
  | cons c rest ih =>
    cases n with
    | zero => simp
    | succ n =>
      rw [byteLength_cons] at h
      exact congrArg (c :: ·) (ih (by omega))

theorem dropBytes_append (a b : List Char) (n : Nat) :
    dropBytes (byteLength a + n) (a ++ b) = dropBytes n b := by
  induction a with
  | nil => simp
  | cons c rest ih => rw [byteLength_cons, Nat.add_assoc, List.cons_append, dropBytes_cons, ih]

@[simp]
theorem takeBytes_byteLength (a b : List Char) : takeBytes (byteLength a) (a ++ b) = a := by
  simpa using takeBytes_append a b 0

@[simp]
theorem dropBytes_byteLength (a b : List Char) : dropBytes (byteLength a) (a ++ b) = b := by
  simpa using dropBytes_append a b 0

/-- Two cuts of a text are the same if they are at the same offset. -/
theorem cut_at_offset {a b r s : List Char} (h : a ++ r = b ++ s)
    (hoffset : byteLength a = byteLength b) : a = b ∧ r = s := by
  constructor
  · have hbefore := congrArg (takeBytes (byteLength a)) h
    rwa [takeBytes_byteLength, hoffset, takeBytes_byteLength] at hbefore
  · have hafter := congrArg (dropBytes (byteLength a)) h
    rwa [dropBytes_byteLength, hoffset, dropBytes_byteLength] at hafter

/-- A stretch of a text by the byte lengths of what stands before it and of itself. -/
theorem slice_append (a b c : List Char) {start stop : Nat} (hstart : start = byteLength a)
    (hstop : stop = start + byteLength b) : slice (a ++ b ++ c) start stop = b := by
  rw [slice, hstop, hstart, Nat.add_sub_cancel_left, List.append_assoc, dropBytes_byteLength,
    takeBytes_byteLength]

end ProgramOutline.Text
