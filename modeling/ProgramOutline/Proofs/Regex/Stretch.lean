import Mathlib.Data.List.TakeWhile
import ProgramOutline.Proofs.Regex.Cursor
import ProgramOutline.Proofs.Regex.Ways

/-!
# Stretches of a text

`Cursor.Crosses` relates two positions through the text between them. Every way of going on from a
position is such a relation, and repeated characters are a stretch of characters of the set.

Results:
* `crosses_append`: stretches one after another.
* `step?_eq_some_iff`, `follow?_eq_some_iff`, `skip?_eq_some_iff`: ways of going on as stretches.
* `Spans.eq_skipAll`, `mem_stops`: where all characters of a set have been taken, and where a
  repetition may be left.
-/

namespace ProgramOutline.Regex

namespace Cursor

/-- `b` is the position after `taken`, which follows `a`. -/
def Crosses (a : Cursor) (taken : List Char) (b : Cursor) : Prop :=
  ∃ rest, a.rest = taken ++ rest ∧ b = a.move taken rest

variable {a b : Cursor} {chars : CharSet}

theorem crosses_nil : a.Crosses [] b ↔ b = a := by
  simp [Crosses]

theorem crosses_append {s t : List Char} :
    a.Crosses (s ++ t) b ↔ ∃ mid, a.Crosses s mid ∧ mid.Crosses t b := by
  constructor
  · rintro ⟨rest, hrest, rfl⟩
    exact ⟨a.move s (t ++ rest), ⟨t ++ rest, by rw [hrest, List.append_assoc], rfl⟩, rest, rfl,
      (move_move ..).symm⟩
  · rintro ⟨mid, ⟨between, hbetween, rfl⟩, rest, hrest, rfl⟩
    rw [move_rest] at hrest
    subst hrest
    exact ⟨rest, by rw [hbetween, List.append_assoc], move_move ..⟩

theorem crosses_cons {c : Char} {t : List Char} :
    a.Crosses (c :: t) b ↔ ∃ mid, a.Crosses [c] mid ∧ mid.Crosses t b :=
  crosses_append (s := [c])

/-- The position after the next character. -/
theorem crosses_past {before : Option Char} {c : Char} {rest : List Char} {offset : Nat} :
    (⟨before, c :: rest, offset⟩ : Cursor).Crosses [c] ⟨some c, rest, offset + c.utf8Size⟩ :=
  ⟨rest, rfl, rfl⟩

theorem crosses_single {c d : Char} {before : Option Char} {rest : List Char} {offset : Nat} :
    (⟨before, c :: rest, offset⟩ : Cursor).Crosses [d] b ↔
      d = c ∧ b = ⟨some c, rest, offset + c.utf8Size⟩ := by
  constructor
  · rintro ⟨rest', hrest, rfl⟩
    obtain ⟨rfl, rfl⟩ := List.cons.inj hrest
    exact ⟨rfl, rfl⟩
  · rintro ⟨rfl, rfl⟩
    exact crosses_past

theorem not_crosses_end {c : Char} {before : Option Char} {offset : Nat} {t : List Char} :
    ¬ (⟨before, [], offset⟩ : Cursor).Crosses (c :: t) b := by
  rintro ⟨rest, hrest, -⟩
  cases hrest

theorem Crosses.before_eq {taken : List Char} (h : a.Crosses taken b) :
    b.before = taken.getLast?.or a.before := by
  obtain ⟨rest, -, rfl⟩ := h
  rfl

theorem Crosses.after_eq {c : Char} {taken : List Char} (h : a.Crosses (c :: taken) b) :
    a.after = some c := by
  obtain ⟨rest, hrest, -⟩ := h
  rw [after, hrest]
  rfl

theorem step?_eq_some_iff :
    a.step? chars = some b ↔ ∃ c, chars.contains c = true ∧ a.Crosses [c] b := by
  obtain ⟨before, text, offset⟩ := a
  cases text with
  | nil => simp [step?, not_crosses_end]
  | cons c rest =>
    simp only [crosses_single, step?_cons, Option.ite_none_right_eq_some, Option.some_inj]
    constructor
    · rintro ⟨hc, rfl⟩
      exact ⟨c, hc, rfl, rfl⟩
    · rintro ⟨c, hc, rfl, rfl⟩
      exact ⟨hc, rfl⟩

theorem follow?_eq_some_iff {text : List Char} : a.follow? text = some b ↔ a.Crosses text b := by
  induction text generalizing a with
  | nil => simp [follow?, crosses_nil, eq_comm]
  | cons c text ih =>
    obtain ⟨before, rest, offset⟩ := a
    rw [crosses_cons]
    cases rest with
    | nil => simp [follow?, not_crosses_end]
    | cons d rest =>
      simp only [follow?, Option.ite_none_right_eq_some, crosses_single, ih]
      constructor
      · rintro ⟨rfl, h⟩
        exact ⟨_, ⟨rfl, rfl⟩, h⟩
      · rintro ⟨mid, ⟨rfl, rfl⟩, h⟩
        exact ⟨rfl, h⟩

/-- `b` is the position after some characters of a set. -/
def Spans (a : Cursor) (chars : CharSet) (count : Nat) (b : Cursor) : Prop :=
  ∃ taken, taken.length = count ∧ (∀ c ∈ taken, chars.contains c = true) ∧ a.Crosses taken b

theorem spans_zero : a.Spans chars 0 b ↔ b = a := by
  simp [Spans, crosses_nil]

theorem spans_succ {count : Nat} :
    a.Spans chars (count + 1) b ↔ ∃ mid, a.step? chars = some mid ∧ mid.Spans chars count b := by
  simp only [step?_eq_some_iff]
  constructor
  · rintro ⟨taken, hlength, hall, hcross⟩
    obtain ⟨c, taken, rfl⟩ := List.exists_cons_of_length_eq_add_one hlength
    obtain ⟨mid, hfirst, hrest⟩ := crosses_cons.mp hcross
    obtain ⟨hc, hall⟩ := List.forall_mem_cons.mp hall
    exact ⟨mid, ⟨c, hc, hfirst⟩, taken, by simpa using hlength, hall, hrest⟩
  · rintro ⟨mid, ⟨c, hc, hfirst⟩, taken, rfl, hall, hrest⟩
    exact ⟨c :: taken, rfl, List.forall_mem_cons.mpr ⟨hc, hall⟩,
      crosses_cons.mpr ⟨mid, hfirst, hrest⟩⟩

theorem spans_add {m n : Nat} :
    a.Spans chars (m + n) b ↔ ∃ mid, a.Spans chars m mid ∧ mid.Spans chars n b := by
  induction m generalizing a with
  | zero => simp [spans_zero]
  | succ m ih =>
    rw [Nat.add_right_comm]
    simp only [spans_succ, ih]
    constructor
    · rintro ⟨first, hfirst, mid, hm, hn⟩
      exact ⟨mid, ⟨first, hfirst, hm⟩, hn⟩
    · rintro ⟨mid, ⟨first, hfirst, hm⟩, hn⟩
      exact ⟨first, hfirst, mid, hm, hn⟩

theorem skip?_eq_some_iff {count : Nat} : a.skip? chars count = some b ↔ a.Spans chars count b := by
  induction count generalizing a with
  | zero => simp [skip?, spans_zero, eq_comm]
  | succ count ih => simp [skip?, spans_succ, Option.bind_eq_some_iff, ih]

theorem spans_skipAll (a : Cursor) (chars : CharSet) :
    a.Spans chars (a.rest.takeWhile chars.contains).length
      (skipAll chars a.before a.offset a.rest) := by
  rw [skipAll_eq]
  exact ⟨_, rfl, fun c hc => List.mem_takeWhile_imp hc, _,
    List.takeWhile_append_dropWhile.symm, rfl⟩

/-- If no further character of the set follows, all have been taken. -/
theorem Spans.eq_skipAll {count : Nat} (h : a.Spans chars count b)
    (hend : ∀ c ∈ b.after, chars.contains c = false) :
    b = skipAll chars a.before a.offset a.rest := by
  obtain ⟨taken, -, hall, rest, hrest, rfl⟩ := h
  have hstop : rest.takeWhile chars.contains = [] ∧ rest.dropWhile chars.contains = rest := by
    cases rest with
    | nil => exact ⟨rfl, rfl⟩
    | cons c rest =>
      have hc : chars.contains c = false := hend c rfl
      simp [hc]
  rw [skipAll_eq, hrest, List.takeWhile_append_of_pos hall, List.dropWhile_append_of_pos hall,
    hstop.1, hstop.2, List.append_nil, ← hrest]

/-- A repetition may be left where it stands, or after a character of the set where one more turn
    leaves it. -/
theorem mem_stops_cons {greedy : Bool} {most : Option Nat} {before : Option Char} {offset : Nat}
    {c : Char} {rest : List Char} :
    b ∈ stops chars greedy most before offset (c :: rest) ↔
      b = ⟨before, c :: rest, offset⟩ ∨ ((most ≠ some 0 ∧ chars.contains c = true) ∧
        b ∈ stops chars greedy (most.map (· - 1)) (some c) (offset + c.utf8Size) rest) := by
  rw [stops]
  simp only [bne_iff_ne, Bool.and_eq_true]
  split_ifs with hgo hgreedy
  · simp [hgo, or_comm]
  · simp [hgo]
  · simp [hgo]

/-- The positions at which a repetition may be left are those after so many characters. -/
theorem mem_stops {greedy : Bool} {most : Option Nat} {before : Option Char} {offset : Nat}
    {rest : List Char} :
    b ∈ stops chars greedy most before offset rest ↔
      ∃ count, (∀ limit ∈ most, count ≤ limit) ∧
        (⟨before, rest, offset⟩ : Cursor).Spans chars count b := by
  induction rest generalizing most before offset with
  | nil =>
    rw [stops, List.mem_singleton]
    constructor
    · rintro rfl
      exact ⟨0, by simp, spans_zero.mpr rfl⟩
    · rintro ⟨count, -, h⟩
      cases count with
      | zero => exact spans_zero.mp h
      | succ count =>
        obtain ⟨mid, hmid, -⟩ := spans_succ.mp h
        cases hmid
  | cons c rest ih =>
    rw [mem_stops_cons, ih]
    constructor
    · rintro (rfl | ⟨⟨hmost, hc⟩, count, hcount, hspans⟩)
      · exact ⟨0, by simp, spans_zero.mpr rfl⟩
      · refine ⟨count + 1, fun limit hlimit => ?_, spans_succ.mpr ⟨_, ?_, hspans⟩⟩
        · have hne : limit ≠ 0 := fun h => hmost (h ▸ hlimit)
          have := hcount (limit - 1) (by simp [Option.mem_def.mp hlimit])
          omega
        · rw [step?_cons, if_pos hc]
          rfl
    · rintro ⟨count, hcount, hspans⟩
      cases count with
      | zero => exact Or.inl (spans_zero.mp hspans)
      | succ count =>
        obtain ⟨mid, hmid, hspans⟩ := spans_succ.mp hspans
        rw [step?_cons, Option.ite_none_right_eq_some, Option.some_inj] at hmid
        obtain ⟨hc, rfl⟩ := hmid
        refine Or.inr ⟨⟨fun hmost => ?_, hc⟩, count, fun limit hlimit => ?_, hspans⟩
        · exact absurd (hcount 0 hmost) (by omega)
        · obtain ⟨limit, hmem, rfl⟩ := Option.map_eq_some_iff.mp hlimit
          have := hcount limit hmem
          omega

/-- Two characters of the set may be taken, so a repetition may be left at three places. -/
example : (stops (.single 'a') true none none 0 "aab".toList).length = 3 := by decide +kernel

end Cursor

end ProgramOutline.Regex
