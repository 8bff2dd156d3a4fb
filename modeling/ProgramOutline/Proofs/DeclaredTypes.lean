import ProgramOutline.Proofs.Text.Lowercase

/-!
# Where a declared type is cut off

A parameter is divided at its leftmost separator, unless this stands at the very start. Separators
are described here by the bytes of the parameter: four of them that spell `as` between two spaces,
in lower case or in either case. The place is looked for in a copy of the parameter in lower case;
it is nevertheless a place between two characters of the parameter itself.

Results:
* `find?_searched_eq_some_iff`: what is found in the copy is the leftmost separator.
* `Cut.first`, `FirstSeparator.exists_cut`: the leftmost separator and the two parts beside it.
* `cutAtSeparator?_eq_some_iff`: the parameter is cut into these parts.
* `declaredType?_leftmost`: what is taken for the name and for the type.
-/

namespace ProgramOutline.Parameters

/-! ## Separators by their bytes -/

/-- A byte as the search for the separator sees it. -/
def foldedByte (mode : SeparatorCase) (b : UInt8) : UInt8 :=
  match mode with
  | .sensitive => b
  | .insensitive => Text.lowerByte b

/-- The four bytes of a parameter from an offset on spell a separator. -/
def SeparatorAt (mode : SeparatorCase) (token : List Char) (position : Nat) : Prop :=
  (((Text.bytes token).drop position).take 4).map (foldedByte mode) = Text.bytes separator

/-- The leftmost separator of a parameter. Separators may overlap, as in ` as as `. -/
def FirstSeparator (mode : SeparatorCase) (token : List Char) (position : Nat) : Prop :=
  SeparatorAt mode token position ∧ ∀ earlier < position, ¬ SeparatorAt mode token earlier

instance (mode : SeparatorCase) (token : List Char) (position : Nat) :
    Decidable (SeparatorAt mode token position) :=
  inferInstanceAs (Decidable (_ = _))

instance (mode : SeparatorCase) (token : List Char) (position : Nat) :
    Decidable (FirstSeparator mode token position) :=
  inferInstanceAs (Decidable (_ ∧ _))

/-- A text that introduces a type. -/
def IsSeparator : SeparatorCase → List Char → Prop
  | .sensitive, text => text = separator
  | .insensitive, text => Text.equalIgnoringCase text separator = true

theorem separator_ne_nil : separator ≠ [] := List.cons_ne_nil _ _

theorem searched_insensitive (text : List Char) : searched .insensitive text = Text.lower text :=
  rfl

theorem searched_append (mode : SeparatorCase) (a b : List Char) :
    searched mode (a ++ b) = searched mode a ++ searched mode b := List.map_append ..

/-- The bytes of the copy are those of the parameter in lower case. -/
theorem map_foldedByte_bytes (mode : SeparatorCase) (text : List Char) :
    (Text.bytes text).map (foldedByte mode) = Text.bytes (searched mode text) := by
  cases mode with
  | sensitive =>
    have hcopy : searched .sensitive text = text := List.map_id' text
    rw [hcopy]
    exact List.map_id' (Text.bytes text)
  | insensitive => exact Text.map_lowerByte_bytes text

theorem isSeparator_iff {mode : SeparatorCase} {sep : List Char} :
    IsSeparator mode sep ↔ searched mode sep = separator := by
  cases mode with
  | sensitive =>
    have hcopy : searched .sensitive sep = sep := List.map_id' sep
    rw [hcopy]
    exact Iff.rfl
  | insensitive =>
    have hlower : Text.lower separator = separator := by decide
    rw [IsSeparator, Text.equalIgnoringCase_iff, hlower, searched_insensitive]

theorem IsSeparator.byteLength_take {mode : SeparatorCase} {sep : List Char}
    (h : IsSeparator mode sep) (n : Nat) :
    Text.byteLength (sep.take n) = Text.byteLength (separator.take n) := by
  rw [← isSeparator_iff.mp h, ← byteLength_searched mode (sep.take n), searched, searched,
    List.map_take]

theorem IsSeparator.byteLength {mode : SeparatorCase} {sep : List Char}
    (h : IsSeparator mode sep) : Text.byteLength sep = 4 := by
  rw [← byteLength_searched mode, isSeparator_iff.mp h]
  rfl

/-! ## Where separators stand -/

section Places

variable {mode : SeparatorCase} {token : List Char} {position : Nat}

theorem separatorAt_iff_occursAt :
    SeparatorAt mode token position ↔ Text.OccursAt separator (searched mode token) position := by
  rw [Text.OccursAt, ← map_foldedByte_bytes, ← List.map_drop, List.prefix_iff_eq_take,
    ← List.map_take, eq_comm]
  exact Iff.rfl

theorem firstSeparator_iff_firstAt :
    FirstSeparator mode token position ↔ Text.FirstAt separator (searched mode token) position := by
  simp only [FirstSeparator, Text.FirstAt, separatorAt_iff_occursAt]

/-- What is found in the copy is the leftmost separator of the parameter. -/
theorem find?_searched_eq_some_iff :
    Text.find? separator (searched mode token) = some position ↔
      FirstSeparator mode token position := by
  rw [Text.find?_eq_some_iff separator_ne_nil, firstSeparator_iff_firstAt]

theorem SeparatorAt.le (h : SeparatorAt mode token position) :
    position + 4 ≤ Text.byteLength token := by
  have hlength := congrArg List.length h
  rw [List.length_map, List.length_take, List.length_drop, Text.length_bytes, Text.length_bytes]
    at hlength
  have hfour : Text.byteLength separator = 4 := rfl
  omega

/-- Whether a separator stands somewhere depends on its four bytes only. -/
theorem separatorAt_append (h : position + 4 ≤ Text.byteLength token) (after : List Char) :
    SeparatorAt mode (token ++ after) position ↔ SeparatorAt mode token position := by
  have hlength := Text.length_bytes token
  rw [SeparatorAt, Text.bytes_append, List.drop_append_of_le_length (by omega),
    List.take_append_of_le_length (by rw [List.length_drop]; omega), SeparatorAt]

theorem separatorAt_of_isSeparator {name sep type : List Char} (h : IsSeparator mode sep) :
    SeparatorAt mode (name ++ sep ++ type) (Text.byteLength name) := by
  rw [separatorAt_iff_occursAt, Text.occursAt_iff separator_ne_nil, searched_append,
    searched_append, isSeparator_iff.mp h]
  exact ⟨_, _, rfl, (byteLength_searched mode name).symm⟩

end Places

/-! ## The parts of a parameter -/

/-- A parameter in three parts, the middle one being its leftmost separator: both ends of it lie
    between two characters, and no separator ends before it does. -/
structure Cut (mode : SeparatorCase) (token name sep type : List Char) : Prop where
  whole : token = name ++ sep ++ type
  spelled : IsSeparator mode sep
  start : Text.isBoundary (Text.byteLength name) token = true
  stop : Text.isBoundary (Text.byteLength name + 4) token = true
  alone : ∀ position, ¬ SeparatorAt mode (name ++ sep.take 3) position

section Parts

variable {mode : SeparatorCase} {token name sep type : List Char}

/-- Up to the last byte of a separator, the parameter is its name and three bytes. -/
theorem exists_before_last (name type : List Char) (h : IsSeparator mode sep) :
    Text.byteLength (name ++ sep.take 3) = Text.byteLength name + 3 ∧
      ∃ rest, name ++ sep ++ type = name ++ sep.take 3 ++ rest := by
  constructor
  · rw [Text.byteLength_append, h.byteLength_take 3]
    rfl
  · refine ⟨sep.drop 3 ++ type, ?_⟩
    calc name ++ sep ++ type
      _ = name ++ (sep.take 3 ++ sep.drop 3) ++ type := by rw [List.take_append_drop]
      _ = name ++ sep.take 3 ++ (sep.drop 3 ++ type) := by simp only [List.append_assoc]

/-- A separator that ended before the leftmost one does would also start before it. -/
theorem FirstSeparator.cut (htoken : token = name ++ sep ++ type) (hsep : IsSeparator mode sep)
    (h : FirstSeparator mode token (Text.byteLength name)) : Cut mode token name sep type where
  whole := htoken
  spelled := hsep
  start := by
    rw [htoken, List.append_assoc]
    exact Text.isBoundary_byteLength ..
  stop := by
    rw [htoken, ← hsep.byteLength, ← Text.byteLength_append]
    exact Text.isBoundary_byteLength ..
  alone := by
    intro position hposition
    obtain ⟨hlength, rest, hrest⟩ := exists_before_last name type hsep
    have hle := hposition.le
    refine h.2 position (by omega) ?_
    rw [htoken, hrest]
    exact (separatorAt_append hle rest).mpr hposition

theorem Cut.first (h : Cut mode token name sep type) :
    FirstSeparator mode token (Text.byteLength name) := by
  obtain ⟨hlength, rest, hrest⟩ := exists_before_last name type h.spelled
  rw [h.whole]
  refine ⟨separatorAt_of_isSeparator h.spelled, fun earlier hearlier hseparator => ?_⟩
  rw [hrest] at hseparator
  exact h.alone earlier ((separatorAt_append (by omega) rest).mp hseparator)

theorem cutAtSeparator?_eq_some_iff :
    cutAtSeparator? mode token = some (name, type) ↔ ∃ sep, Cut mode token name sep type := by
  constructor
  · intro h
    obtain ⟨sep, htoken, hsep⟩ := cutAtSeparator?_searched h
    have hfound : Text.find? separator (searched mode token) = some (Text.byteLength name) := by
      rw [find?_searched, h, Option.map_some]
    exact ⟨sep, (find?_searched_eq_some_iff.mp hfound).cut htoken (isSeparator_iff.mpr hsep)⟩
  · rintro ⟨sep, hcut⟩
    have hfound := find?_searched_eq_some_iff.mpr hcut.first
    rw [find?_searched, Option.map_eq_some_iff] at hfound
    obtain ⟨⟨name', type'⟩, h, hlength⟩ := hfound
    obtain ⟨sep', htoken, hsep'⟩ := cutAtSeparator?_split h
    have hstop : Text.byteLength (name ++ sep) = Text.byteLength (name' ++ sep') := by
      rw [Text.byteLength_append, Text.byteLength_append, hcut.spelled.byteLength, hlength, hsep']
      rfl
    obtain ⟨hstart, rfl⟩ := Text.cut_at_offset (hcut.whole.symm.trans htoken) hstop
    obtain ⟨rfl, -⟩ := Text.cut_at_offset hstart hlength.symm
    exact h

theorem FirstSeparator.exists_cut {position : Nat} (h : FirstSeparator mode token position) :
    ∃ name sep type, Cut mode token name sep type ∧ Text.byteLength name = position := by
  have hfound := find?_searched_eq_some_iff.mpr h
  rw [find?_searched, Option.map_eq_some_iff] at hfound
  obtain ⟨⟨name, type⟩, hcut, hlength⟩ := hfound
  obtain ⟨sep, hcut⟩ := cutAtSeparator?_eq_some_iff.mp hcut
  exact ⟨name, sep, type, hcut, hlength⟩

theorem declaredType?_eq_some_iff :
    declaredType? mode token = some (name, type) ↔
      0 < Text.byteLength name ∧ ∃ sep, Cut mode token name sep type := by
  have hname : (!name.isEmpty) = true ↔ 0 < Text.byteLength name := by
    rw [Nat.pos_iff_ne_zero, ne_eq, Text.byteLength_eq_zero]
    simp
  rw [declaredType?, Option.filter_eq_some_iff, cutAtSeparator?_eq_some_iff, hname, and_comm]

end Parts

/-- **A declared type is cut off at the leftmost separator.** For every text of a parameter, with
    blanks at its ends or without, what is found in the copy is the leftmost separator by the bytes
    of the parameter itself. It starts between two characters and ends, four bytes later, between
    two, and no other separator ends before it does. Unless it is the start of the parameter, the
    parts before and after it, without blanks at their ends, are the name and the type. Where it
    is, or where there is no separator, the name is the whole text and the type is not declared. -/
theorem declaredType?_leftmost (options : TypingOptions) (token : List Char) :
    (∀ position, Text.find? separator (searched options.separator token) = some position ↔
      FirstSeparator options.separator token position) ∧
    (∀ position, FirstSeparator options.separator token position ↔
      ∃ name sep type, Cut options.separator token name sep type ∧
        Text.byteLength name = position) ∧
    (∀ name type, declaredType? options.separator token = some (name, type) ↔
      0 < Text.byteLength name ∧ ∃ sep, Cut options.separator token name sep type) ∧
    (∀ name sep type, Cut options.separator token name sep type → 0 < Text.byteLength name →
      parameter options token =
        ⟨String.ofList (Text.trim name), some (.ofName (String.ofList (Text.trim type)))⟩) ∧
    ((∀ position, FirstSeparator options.separator token position → position = 0) →
      declaredType? options.separator token = none ∧
        parameter options token =
          ⟨String.ofList token, inferredType options.fallback token⟩) := by
  refine ⟨fun position => find?_searched_eq_some_iff, fun position => ⟨fun h => h.exists_cut, ?_⟩,
    fun name type => declaredType?_eq_some_iff, fun name sep type hcut hpos => ?_, fun hzero => ?_⟩
  · rintro ⟨name, sep, type, hcut, rfl⟩
    exact hcut.first
  · rw [parameter, declaredType?_eq_some_iff.mpr ⟨hpos, sep, hcut⟩]
  · have hnone : declaredType? options.separator token = none := by
      rw [Option.eq_none_iff_forall_ne_some]
      rintro ⟨name, type⟩ hsome
      obtain ⟨hpos, sep, hcut⟩ := declaredType?_eq_some_iff.mp hsome
      have := hzero _ hcut.first
      omega
    rw [parameter, hnone]
    exact ⟨rfl, rfl⟩

/-- A parameter with two separators in either case, the second one starting with the last space of
    the first. -/
def overlapping : List Char := "é AS as Ção".toList

/-- A parameter with a separator at its start and one later. -/
def leading : List Char := " as x AS y".toList

theorem declaredType?_leftmost_overlapping :
    FirstSeparator .insensitive overlapping 2 ∧
      Text.find? separator (searched .insensitive overlapping) = some 2 ∧
      (∃ sep, Cut .insensitive overlapping "é".toList sep "as Ção".toList) ∧
      declaredType? .insensitive overlapping = some ("é".toList, "as Ção".toList) ∧
      parameter ⟨.undefined, .insensitive⟩ overlapping = ⟨"é", some (.named "as Ção")⟩ ∧
      (∀ position, FirstSeparator .insensitive leading position → position = 0) ∧
      SeparatorAt .insensitive leading 5 ∧
      parameter ⟨.undefined, .insensitive⟩ leading = ⟨" as x AS y", some .undefined⟩ := by
  have hfirst : FirstSeparator .insensitive overlapping 2 := by decide
  have hdeclared : declaredType? .insensitive overlapping =
      some ("é".toList, "as Ção".toList) := by decide
  have hzero : ∀ position, FirstSeparator .insensitive leading position → position = 0 := by
    intro position hposition
    have hstart : SeparatorAt .insensitive leading 0 := by decide
    by_contra hne
    exact hposition.2 0 (by omega) hstart
  obtain ⟨hfound, -, hcut, hparameter, -⟩ :=
    declaredType?_leftmost ⟨.undefined, .insensitive⟩ overlapping
  obtain ⟨-, -, -, -, hwhole⟩ := declaredType?_leftmost ⟨.undefined, .insensitive⟩ leading
  obtain ⟨hpos, sep, hsep⟩ := (hcut _ _).mp hdeclared
  have htrimmed := hparameter _ _ _ hsep hpos
  exact ⟨hfirst, (hfound 2).mpr hfirst, ⟨sep, hsep⟩, hdeclared, htrimmed.trans (by decide), hzero,
    by decide, (hwhole hzero).2.trans (by decide)⟩

end ProgramOutline.Parameters
