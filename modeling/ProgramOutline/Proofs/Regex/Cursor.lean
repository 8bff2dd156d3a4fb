import Mathlib.Tactic
import ProgramOutline.Regex.Cursor

/-!
# Moving a position over text

`Cursor.move` is the position after a stretch of text. Every way of going on from a position is such
a move, and moves compose (`move_move`).

Results:
* `step?_cons`, `follow?_single`, `skipAll_eq`: the ways of going on as moves.
* `Leads`: a position is ahead of another one in the same text; a preorder.
-/

namespace ProgramOutline.Regex.Cursor

/-- The position after `taken`, which is followed by `rest`. -/
def move (cur : Cursor) (taken rest : List Char) : Cursor :=
  ⟨taken.getLast?.or cur.before, rest, cur.offset + Text.byteLength taken⟩

@[simp]
theorem move_rest (cur : Cursor) (taken rest : List Char) : (cur.move taken rest).rest = rest := rfl

@[simp]
theorem move_offset (cur : Cursor) (taken rest : List Char) :
    (cur.move taken rest).offset = cur.offset + Text.byteLength taken := rfl

@[simp]
theorem move_nil (cur : Cursor) : cur.move [] cur.rest = cur := rfl

@[simp]
theorem move_move (cur : Cursor) (a b r s : List Char) :
    (cur.move a r).move b s = cur.move (a ++ b) s := by
  simp [move, Option.or_assoc, Nat.add_assoc]

theorem past_eq_move (cur : Cursor) (c : Char) (rest : List Char) :
    cur.past c rest = cur.move [c] rest := rfl

/-! ## Ways of going on -/

theorem step?_cons (before : Option Char) (c : Char) (rest : List Char) (offset : Nat)
    (chars : CharSet) :
    step? ⟨before, c :: rest, offset⟩ chars =
      if chars.contains c then some (move ⟨before, c :: rest, offset⟩ [c] rest) else none := rfl

theorem skipAll_eq (chars : CharSet) (before : Option Char) (offset : Nat) (text : List Char) :
    skipAll chars before offset text =
      move ⟨before, text, offset⟩ (text.takeWhile chars.contains)
        (text.dropWhile chars.contains) := by
  induction text generalizing before offset with
  | nil => rfl
  | cons c rest ih =>
    rw [skipAll]
    split
    · rename_i hc
      rw [ih, List.takeWhile_cons_of_pos hc, List.dropWhile_cons_of_pos hc]
      simp [move, Nat.add_assoc, List.getLast?_cons]
    · rename_i hc
      rw [List.takeWhile_cons_of_neg hc, List.dropWhile_cons_of_neg hc]
      rfl

theorem follow?_single (cur : Cursor) (c : Char) :
    cur.follow? [c] =
      match cur.rest with
      | [] => none
      | d :: rest => if c = d then some (cur.move [d] rest) else none := by
  cases h : cur.rest with
  | nil => simp [follow?, h]
  | cons d rest => simp [follow?, h, past_eq_move]

/-! ## Positions ahead -/

/-- `b` is a position of the same text at or after `a`. -/
def Leads (a b : Cursor) : Prop := ∃ taken rest, a.rest = taken ++ rest ∧ b = a.move taken rest

theorem Leads.refl (cur : Cursor) : cur.Leads cur := ⟨[], cur.rest, rfl, rfl⟩

theorem Leads.trans {a b c : Cursor} (hab : a.Leads b) (hbc : b.Leads c) : a.Leads c := by
  obtain ⟨taken, rest, ha, rfl⟩ := hab
  obtain ⟨taken', rest', hb, rfl⟩ := hbc
  refine ⟨taken ++ taken', rest', ?_, move_move ..⟩
  rw [ha, List.append_assoc, ← hb, move_rest]

theorem leads_past {cur : Cursor} {c : Char} {rest : List Char} (h : cur.rest = c :: rest) :
    cur.Leads (cur.past c rest) := ⟨[c], rest, h, rfl⟩

theorem leads_of_step? {cur next : Cursor} {chars : CharSet} (h : cur.step? chars = some next) :
    cur.Leads next := by
  unfold step? at h
  split at h
  · cases h
  · rename_i c rest hrest
    split at h
    · cases h
      exact leads_past hrest
    · cases h

theorem leads_of_follow? {cur next : Cursor} {text : List Char} (h : cur.follow? text = some next) :
    cur.Leads next := by
  induction text generalizing cur with
  | nil =>
    cases h
    exact .refl _
  | cons c text ih =>
    unfold follow? at h
    split at h
    · cases h
    · rename_i d rest hrest
      split at h
      · exact (leads_past hrest).trans (ih h)
      · cases h

theorem leads_of_skip? {cur next : Cursor} {chars : CharSet} {count : Nat}
    (h : cur.skip? chars count = some next) : cur.Leads next := by
  induction count generalizing cur with
  | zero =>
    cases h
    exact .refl _
  | succ count ih =>
    obtain ⟨mid, hmid, h⟩ := Option.bind_eq_some_iff.mp h
    exact (leads_of_step? hmid).trans (ih h)

theorem leads_skipAll (chars : CharSet) (cur : Cursor) :
    cur.Leads (skipAll chars cur.before cur.offset cur.rest) :=
  ⟨_, _, (List.takeWhile_append_dropWhile).symm, skipAll_eq ..⟩

end ProgramOutline.Regex.Cursor
