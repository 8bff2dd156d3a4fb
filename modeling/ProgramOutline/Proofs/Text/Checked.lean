import ProgramOutline.Proofs.Text.Offset

/-!
# Cutting a text with a check

A text is cut at byte offsets and searched from byte offsets on. That makes no sense for an offset
inside of a character or beyond the end. `takeBytes`, `dropBytes` and `slice` then cut somewhere
nearby; `checkedSlice` and `checkedStart` end with a `Fault` instead.

Results:
* `isBoundary_iff`: the boundaries of a text are the byte lengths of its starts.
* `checkedSlice_append`, `checkedSlice_after`: at boundaries nothing is wrong.
* `mapM_eq_map`: a program without a fault for each item of a list.
-/

namespace ProgramOutline

/-- What can be wrong with a byte offset. -/
inductive Fault where
  /-- A slice starts or ends inside of a character or beyond the text, or starts after its end. -/
  | slice (start stop : Nat)
  /-- A search starts beyond the end of the text. -/
  | search (start : Nat)
  deriving DecidableEq

/-- If no item of a list leads to a fault, neither does the list. -/
theorem mapM_eq_map {α β : Type} {check : α → Except Fault β} {f : α → β} {items : List α}
    (h : ∀ item ∈ items, check item = .ok (f item)) : items.mapM check = .ok (items.map f) := by
  induction items with
  | nil => rfl
  | cons item items ih =>
    rw [List.mapM_cons, h item (by simp), ih (fun other hother => h other (by simp [hother]))]
    rfl

namespace Text

/-! ## Boundaries -/

theorem isBoundary_zero (text : List Char) : isBoundary 0 text = true := by
  cases text <;> rfl

theorem isBoundary_cons (c : Char) (rest : List Char) (n : Nat) :
    isBoundary (c.utf8Size + n) (c :: rest) = isBoundary n rest := by
  have hpos := Char.utf8Size_pos c
  obtain ⟨m, hm⟩ : ∃ m, c.utf8Size + n = m + 1 := ⟨c.utf8Size + n - 1, by omega⟩
  have hle : c.utf8Size ≤ m + 1 := by omega
  rw [hm, isBoundary, show m + 1 - c.utf8Size = n by omega]
  simp [hle]

theorem isBoundary_byteLength (before after : List Char) :
    isBoundary (byteLength before) (before ++ after) = true := by
  induction before with
  | nil => exact isBoundary_zero after
  | cons c before ih => rw [byteLength_cons, List.cons_append, isBoundary_cons, ih]

/-- The boundaries of a text are the byte lengths of its starts. -/
theorem isBoundary_iff {n : Nat} {text : List Char} :
    isBoundary n text = true ↔ ∃ before after, text = before ++ after ∧ n = byteLength before := by
  constructor
  · intro h
    induction text generalizing n with
    | nil =>
      cases n with
      | zero => exact ⟨[], [], rfl, rfl⟩
      | succ n => cases h
    | cons c rest ih =>
      cases n with
      | zero => exact ⟨[], c :: rest, rfl, rfl⟩
      | succ n =>
        simp only [isBoundary, Bool.and_eq_true, decide_eq_true_eq] at h
        obtain ⟨before, after, rfl, hn⟩ := ih h.2
        refine ⟨c :: before, after, rfl, ?_⟩
        rw [byteLength_cons]
        omega
  · rintro ⟨before, after, rfl, rfl⟩
    exact isBoundary_byteLength before after

/-! ## Slices and searches -/

/-- The text between two byte offsets, if these are boundaries in order. -/
def checkedSlice (text : List Char) (start stop : Nat) : Except Fault (List Char) :=
  if isBoundary start text && isBoundary stop text && start ≤ stop then .ok (slice text start stop)
  else .error (.slice start stop)

example : checkedSlice "é".toList 0 1 = .error (.slice 0 1) := by decide +kernel

/-- Whether a search may start at a byte offset. -/
def checkedStart (text : List Char) (start : Nat) : Except Fault Unit :=
  if start ≤ byteLength text then .ok () else .error (.search start)

theorem checkedStart_of_le {text : List Char} {start : Nat} (h : start ≤ byteLength text) :
    checkedStart text start = .ok () := if_pos h

/-- A stretch of a text is cut out without a fault. -/
theorem checkedSlice_append (a b c : List Char) {start stop : Nat} (hstart : start = byteLength a)
    (hstop : stop = start + byteLength b) : checkedSlice (a ++ b ++ c) start stop = .ok b := by
  have hfirst : isBoundary start (a ++ b ++ c) = true :=
    isBoundary_iff.mpr ⟨a, b ++ c, List.append_assoc .., hstart⟩
  have hlast : isBoundary stop (a ++ b ++ c) = true :=
    isBoundary_iff.mpr ⟨a ++ b, c, rfl, by rw [hstop, hstart, byteLength_append]⟩
  have hle : start ≤ stop := by omega
  rw [checkedSlice, hfirst, hlast, decide_eq_true hle, slice_append a b c hstart hstop]
  rfl

/-- A start of a text is cut out without a fault. -/
theorem checkedSlice_before (a b : List Char) : checkedSlice (a ++ b) 0 (byteLength a) = .ok a := by
  simpa using checkedSlice_append [] a b rfl (Nat.zero_add _).symm

/-- An end of a text is cut out without a fault. -/
theorem checkedSlice_after (a b : List Char) :
    checkedSlice (a ++ b) (byteLength a) (byteLength (a ++ b)) = .ok b := by
  simpa using checkedSlice_append a b [] rfl (byteLength_append a b)

end Text

end ProgramOutline
