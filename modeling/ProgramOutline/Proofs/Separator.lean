import ProgramOutline.Parameters
import ProgramOutline.Proofs.Text.Bytes

/-!
# The separator before a declared type

A parameter with a declared type is cut at the first separator, in lower case or in either case. To
look for it in either case is to look for the lower case one in a copy of the parameter in lower
case. The copy takes as many bytes, character by character, so the separator stands at the same
offset in both.

Results:
* `afterSeparator?_eq_some`, `cutAtSeparator?_searched`: what a parameter is cut into.
* `byteLength_searched`: the copy is as long as the parameter.
* `find?_searched`: the parameter is cut where the separator is found.
-/

namespace ProgramOutline

/-! ## Lower case -/

/-- Only capital letters have another character for lower case. -/
theorem toLower_cases (c : Char) : c.toLower = c ∨ ∃ i < 26, c = Char.ofNat (i + 65) := by
  unfold Char.toLower
  split
  · rename_i hcapital
    obtain ⟨hfirst, hlast⟩ := hcapital
    have hfirst : 65 ≤ c.toNat := hfirst
    have hlast : c.toNat ≤ 90 := hlast
    refine .inr ⟨c.toNat - 65, by omega, ?_⟩
    rw [Nat.sub_add_cancel hfirst, Char.ofNat_toNat]
  · exact .inl rfl

theorem utf8Size_toLower (c : Char) : c.toLower.utf8Size = c.utf8Size := by
  have hcapital : ∀ i < 26, (Char.ofNat (i + 65)).toLower.utf8Size =
      (Char.ofNat (i + 65)).utf8Size := by decide
  rcases toLower_cases c with h | ⟨i, hi, rfl⟩
  · rw [h]
  · exact hcapital i hi

theorem toLower_eq_space {c : Char} : c.toLower = ' ' ↔ c = ' ' := by
  have hcapital : ∀ i < 26, (Char.ofNat (i + 65)).toLower ≠ ' ' ∧ Char.ofNat (i + 65) ≠ ' ' := by
    decide
  rcases toLower_cases c with h | ⟨i, hi, rfl⟩
  · rw [h]
  · exact iff_of_false (hcapital i hi).1 (hcapital i hi).2

namespace Parameters

/-! ## Where a parameter is cut -/

theorem afterSeparator?_eq_some {mode : SeparatorCase} {text rest : List Char} :
    afterSeparator? mode text = some rest ↔
      ∃ a s, text = ' ' :: a :: s :: ' ' :: rest ∧ spells mode 'a' a = true ∧
        spells mode 's' s = true := by
  constructor
  · intro h
    unfold afterSeparator? at h
    split at h
    · rename_i a s rest'
      simp only [Option.ite_none_right_eq_some, Bool.and_eq_true, Option.some.injEq] at h
      obtain ⟨⟨ha, hs⟩, rfl⟩ := h
      exact ⟨a, s, rfl, ha, hs⟩
    · cases h
  · rintro ⟨a, s, rfl, ha, hs⟩
    simp [afterSeparator?, ha, hs]

theorem afterSeparator?_cons_of_ne {c : Char} (hc : c ≠ ' ') (mode : SeparatorCase)
    (rest : List Char) : afterSeparator? mode (c :: rest) = none := by
  rw [Option.eq_none_iff_forall_ne_some]
  intro after h
  obtain ⟨a, s, htext, -⟩ := afterSeparator?_eq_some.mp h
  exact hc (List.cons.inj htext).1

theorem cutAtSeparator?_cons (mode : SeparatorCase) (c : Char) (rest : List Char) :
    cutAtSeparator? mode (c :: rest) =
      match afterSeparator? mode (c :: rest) with
      | some after => some ([], after)
      | none => (cutAtSeparator? mode rest).map (fun cut => (c :: cut.1, cut.2)) := rfl

theorem cutAtSeparator?_of_none {mode : SeparatorCase} {c : Char} {rest : List Char}
    (h : afterSeparator? mode (c :: rest) = none) :
    cutAtSeparator? mode (c :: rest) =
      (cutAtSeparator? mode rest).map (fun cut => (c :: cut.1, cut.2)) := by
  rw [cutAtSeparator?_cons, h]

theorem cutAtSeparator?_of_some {mode : SeparatorCase} {c : Char} {rest after : List Char}
    (h : afterSeparator? mode (c :: rest) = some after) :
    cutAtSeparator? mode (c :: rest) = some ([], after) := by
  rw [cutAtSeparator?_cons, h]

/-! ## Searching for the separator -/

/-- The text between a name and its type. -/
def separator : List Char := [' ', 'a', 's', ' ']

/-- A character as the search for the separator sees it. -/
def folded (mode : SeparatorCase) (c : Char) : Char :=
  match mode with
  | .sensitive => c
  | .insensitive => c.toLower

/-- The text in which the separator is searched for. -/
def searched (mode : SeparatorCase) (token : List Char) : List Char := token.map (folded mode)

theorem utf8Size_folded (mode : SeparatorCase) (c : Char) :
    (folded mode c).utf8Size = c.utf8Size := by
  cases mode with
  | sensitive => rfl
  | insensitive => exact utf8Size_toLower c

theorem folded_eq_space {mode : SeparatorCase} {c : Char} : folded mode c = ' ' ↔ c = ' ' := by
  cases mode with
  | sensitive => exact Iff.rfl
  | insensitive => exact toLower_eq_space

theorem folded_eq_letter {mode : SeparatorCase} {letter c : Char} (h : letter.toLower = letter) :
    folded mode c = letter ↔ spells mode letter c = true := by
  cases mode with
  | sensitive => simp [folded, spells]
  | insensitive =>
    have hsame : c = letter → c.toLower = letter := by
      rintro rfl
      exact h
    simp only [folded, spells, Bool.or_eq_true, beq_iff_eq, Bool.and_eq_true]
    tauto

/-- What is searched is as long as the parameter. -/
theorem byteLength_searched (mode : SeparatorCase) (token : List Char) :
    Text.byteLength (searched mode token) = Text.byteLength token := by
  induction token with
  | nil => rfl
  | cons c rest ih =>
    change Text.byteLength (folded mode c :: searched mode rest) = _
    rw [Text.byteLength_cons, Text.byteLength_cons, utf8Size_folded, ih]

/-- A stretch is a separator if it is searched for as one. -/
theorem afterSeparator?_iff_searched {mode : SeparatorCase} {text rest : List Char} :
    afterSeparator? mode text = some rest ↔
      ∃ sep, text = sep ++ rest ∧ searched mode sep = separator := by
  have ha : 'a'.toLower = 'a' := by decide
  have hs : 's'.toLower = 's' := by decide
  rw [afterSeparator?_eq_some]
  constructor
  · rintro ⟨a, s, rfl, hfirst, hsecond⟩
    refine ⟨[' ', a, s, ' '], rfl, ?_⟩
    simp [searched, separator, folded_eq_space, folded_eq_letter ha, folded_eq_letter hs, hfirst,
      hsecond]
  · rintro ⟨sep, rfl, hsep⟩
    obtain ⟨w, sep, rfl, hw, hsep⟩ := List.map_eq_cons_iff.mp hsep
    obtain ⟨a, sep, rfl, hfirst, hsep⟩ := List.map_eq_cons_iff.mp hsep
    obtain ⟨s, sep, rfl, hsecond, hsep⟩ := List.map_eq_cons_iff.mp hsep
    obtain ⟨z, sep, rfl, hz, hsep⟩ := List.map_eq_cons_iff.mp hsep
    obtain rfl := List.map_eq_nil_iff.mp hsep
    obtain rfl := folded_eq_space.mp hw
    obtain rfl := folded_eq_space.mp hz
    exact ⟨a, s, rfl, (folded_eq_letter ha).mp hfirst, (folded_eq_letter hs).mp hsecond⟩

theorem isPrefixOf_searched (mode : SeparatorCase) (text : List Char) :
    separator.isPrefixOf (searched mode text) = (afterSeparator? mode text).isSome := by
  rw [Bool.eq_iff_iff, List.isPrefixOf_iff_prefix, Option.isSome_iff_exists]
  constructor
  · rintro ⟨tail, htail⟩
    obtain ⟨sep, rest, rfl, hsep, -⟩ := List.map_eq_append_iff.mp htail.symm
    exact ⟨rest, afterSeparator?_iff_searched.mpr ⟨sep, rfl, hsep⟩⟩
  · rintro ⟨rest, hrest⟩
    obtain ⟨sep, rfl, hsep⟩ := afterSeparator?_iff_searched.mp hrest
    rw [← hsep, searched, searched, List.map_append]
    exact List.prefix_append ..

/-- The separator is found where the parameter is cut. -/
theorem find?_searched (mode : SeparatorCase) (token : List Char) :
    Text.find? separator (searched mode token) =
      (cutAtSeparator? mode token).map (fun cut => Text.byteLength cut.1) := by
  induction token with
  | nil => rfl
  | cons c rest ih =>
    have hprefix := isPrefixOf_searched mode (c :: rest)
    have hcons : searched mode (c :: rest) = folded mode c :: searched mode rest := rfl
    rw [hcons] at hprefix ⊢
    rw [Text.find?, hprefix, ih, utf8Size_folded]
    rcases hafter : afterSeparator? mode (c :: rest) with - | after
    · rw [cutAtSeparator?_of_none hafter]
      simp [Option.map_map, Function.comp_def]
    · rw [cutAtSeparator?_of_some hafter]
      rfl

/-- A parameter is what stands before the separator, the separator, and what stands after it. -/
theorem cutAtSeparator?_searched {mode : SeparatorCase} {token name type : List Char}
    (h : cutAtSeparator? mode token = some (name, type)) :
    ∃ sep, token = name ++ sep ++ type ∧ searched mode sep = separator := by
  induction token generalizing name with
  | nil => cases h
  | cons c rest ih =>
    rcases hafter : afterSeparator? mode (c :: rest) with - | after
    · rw [cutAtSeparator?_of_none hafter] at h
      obtain ⟨⟨before, after⟩, hcut, heq⟩ := Option.map_eq_some_iff.mp h
      obtain ⟨rfl, rfl⟩ := Prod.mk.inj heq
      obtain ⟨sep, rfl, hsep⟩ := ih hcut
      exact ⟨sep, rfl, hsep⟩
    · rw [cutAtSeparator?_of_some hafter] at h
      obtain ⟨rfl, rfl⟩ := Prod.mk.inj (Option.some.inj h)
      exact afterSeparator?_iff_searched.mp hafter

theorem cutAtSeparator?_split {mode : SeparatorCase} {token name type : List Char}
    (h : cutAtSeparator? mode token = some (name, type)) :
    ∃ sep, token = name ++ sep ++ type ∧ Text.byteLength sep = Text.byteLength separator := by
  obtain ⟨sep, htoken, hsep⟩ := cutAtSeparator?_searched h
  exact ⟨sep, htoken, by rw [← hsep, byteLength_searched]⟩

end Parameters

end ProgramOutline
