import ProgramOutline.Proofs.Excerpts
import ProgramOutline.Proofs.JsonRoundTrip

/-!
# The form of parameters

A parameter that is read from a list has a name, and the name, like a type that the list names, is
a text without commas and without blanks at its ends. This rests on the text of the parameter having
been cleaned before it is cut at the separator: the separator starts and ends with a blank, so it
stands neither at the start nor at the end of that text, and there is something on both sides of it.

Results:
* `parameter_wellFormed`: the form of one parameter.
* `cutAtSeparator?_relaxed`: where a separator in lower case is found, one in either case is found
  there or before.
* `parse_wellFormed`: all parameters of a list, and what changes if the separator may be in either
  case.
-/

namespace ProgramOutline

open Text (Excerpt)

/-! ## Well-formed parameters -/

/-- A text that is not empty, holds no comma and has no blanks at its ends. -/
structure Parameters.Clean (text : List Char) : Prop where
  ne_nil : text ≠ []
  comma : ',' ∉ text
  first : ∀ c ∈ text.head?, Text.isBlank c = false
  last : ∀ c ∈ text.getLast?, Text.isBlank c = false

/-- The name is clean, and so is a type that is named; that is not named like a conventional one. -/
structure Parameter.WellFormed (p : Parameter) : Prop where
  name : Parameters.Clean p.name.toList
  type : ∀ type, p.type = some (.named type) → Parameters.Clean type.toList
  fit : p.Fit

namespace Parameters

theorem comma_notMem_of_mem_tokens {list token : List Char} (h : token ∈ tokens list) :
    ',' ∉ token := by
  obtain ⟨htoken, -⟩ := List.mem_filter.mp h
  obtain ⟨piece, hpiece, rfl⟩ := List.mem_map.mp htoken
  intro hmem
  exact Text.notMem_of_mem_splitOn ',' hpiece ((Text.stripWhile_isInfix isNoise piece).subset hmem)

theorem Clean.of_excerpt {piece token : List Char} (h : Excerpt piece token)
    (hcomma : ',' ∉ token) : Clean piece where
  ne_nil := h.ne_nil
  comma hmem := hcomma (h.within.subset hmem)
  first c hc := by
    obtain ⟨d, hd, hink⟩ := h.first
    rw [hd] at hc
    rwa [← Option.some.inj hc]
  last c hc := by
    obtain ⟨d, hd, hink⟩ := h.last
    rw [hd] at hc
    rwa [← Option.some.inj hc]

theorem parameter_wellFormed (options : TypingOptions) {list token : List Char}
    (h : token ∈ tokens list) : (parameter options token).WellFormed := by
  have hcomma := comma_notMem_of_mem_tokens h
  obtain ⟨hname, htype⟩ := parameter_excerpts options (excerpt_of_mem_tokens h)
  exact ⟨.of_excerpt hname hcomma, fun type hnamed => .of_excerpt (htype type hnamed) hcomma,
    parameter_fit options token⟩

/-! ## The separator -/

theorem head?_separator {mode : SeparatorCase} {sep : List Char}
    (h : searched mode sep = separator) : sep.head? = some ' ' := by
  have hhead := congrArg List.head? h
  rw [searched, List.head?_map] at hhead
  obtain ⟨c, hc, hfolded⟩ := Option.map_eq_some_iff.mp hhead
  rw [hc, folded_eq_space.mp hfolded]

/-- Before the separator of a parameter there is something, since the parameter does not start with
    a blank. -/
theorem name_ne_nil {list token : List Char} (h : token ∈ tokens list) {mode : SeparatorCase}
    {name type : List Char} (hcut : cutAtSeparator? mode token = some (name, type)) :
    name ≠ [] := by
  rintro rfl
  obtain ⟨sep, rfl, hsep⟩ := cutAtSeparator?_searched hcut
  obtain ⟨c, hc, hink⟩ := (excerpt_of_mem_tokens h).first
  rw [List.nil_append, List.head?_append, head?_separator hsep, Option.some_or] at hc
  obtain rfl := Option.some.inj hc
  cases hink

/-- No parameter starts with a separator. -/
theorem find?_separator_ne_zero {list token : List Char} (h : token ∈ tokens list)
    (mode : SeparatorCase) : Text.find? separator (searched mode token) ≠ some 0 := by
  rw [find?_searched]
  intro hzero
  obtain ⟨⟨name, type⟩, hcut, hlength⟩ := Option.map_eq_some_iff.mp hzero
  exact name_ne_nil h hcut (Text.byteLength_eq_zero.mp hlength)

theorem declaredType?_of_mem_tokens {list token : List Char} (h : token ∈ tokens list)
    (mode : SeparatorCase) : declaredType? mode token = cutAtSeparator? mode token := by
  rw [declaredType?]
  rcases hcut : cutAtSeparator? mode token with - | ⟨name, type⟩
  · rfl
  · exact Option.filter_some_pos (by simpa using name_ne_nil h hcut)

/-! ## Separators in either case -/

theorem spells_relaxed {letter c : Char} (h : spells .sensitive letter c = true) :
    spells .insensitive letter c = true := by
  have hsame : (c == letter) = true := by
    rwa [spells, show (SeparatorCase.sensitive == .insensitive) = false from rfl, Bool.false_and,
      Bool.or_false] at h
  rw [spells, hsame, Bool.true_or]

theorem afterSeparator?_relaxed {text rest : List Char}
    (h : afterSeparator? .sensitive text = some rest) :
    afterSeparator? .insensitive text = some rest := by
  obtain ⟨a, s, htext, ha, hs⟩ := afterSeparator?_eq_some.mp h
  exact afterSeparator?_eq_some.mpr ⟨a, s, htext, spells_relaxed ha, spells_relaxed hs⟩

/-- A separator in either case is found where one in lower case is found, or before. -/
theorem cutAtSeparator?_relaxed {token name type : List Char}
    (h : cutAtSeparator? .sensitive token = some (name, type)) :
    ∃ name' type', cutAtSeparator? .insensitive token = some (name', type') ∧ name' <+: name := by
  induction token generalizing name with
  | nil => cases h
  | cons c rest ih =>
    rcases hafter : afterSeparator? .insensitive (c :: rest) with - | after
    · have hnone : afterSeparator? .sensitive (c :: rest) = none := by
        rw [Option.eq_none_iff_forall_ne_some]
        intro after hsome
        rw [afterSeparator?_relaxed hsome] at hafter
        cases hafter
      rw [cutAtSeparator?_of_none hnone] at h
      obtain ⟨⟨before, after⟩, hcut, heq⟩ := Option.map_eq_some_iff.mp h
      obtain ⟨rfl, rfl⟩ := Prod.mk.inj heq
      obtain ⟨name', type', hcut', hprefix⟩ := ih hcut
      refine ⟨c :: name', type', ?_, (List.prefix_cons_inj c).mpr hprefix⟩
      rw [cutAtSeparator?_of_none hafter, hcut', Option.map_some]
    · refine ⟨[], after, ?_, List.nil_prefix⟩
      exact cutAtSeparator?_of_some hafter

/-- What stands before the separator, or the whole text without one. -/
def beforeSeparator (mode : SeparatorCase) (token : List Char) : List Char :=
  ((cutAtSeparator? mode token).map Prod.fst).getD token

theorem beforeSeparator_isPrefix (mode : SeparatorCase) (token : List Char) :
    beforeSeparator mode token <+: token := by
  rw [beforeSeparator]
  rcases hcut : cutAtSeparator? mode token with - | ⟨name, type⟩
  · exact List.prefix_rfl
  · obtain ⟨sep, rfl, -⟩ := cutAtSeparator?_searched hcut
    rw [List.append_assoc]
    exact List.prefix_append name _

theorem beforeSeparator_relaxed (token : List Char) :
    beforeSeparator .insensitive token <+: beforeSeparator .sensitive token := by
  rcases hcut : cutAtSeparator? .sensitive token with - | ⟨name, type⟩
  · have hwhole : beforeSeparator .sensitive token = token := by rw [beforeSeparator, hcut]; rfl
    rw [hwhole]
    exact beforeSeparator_isPrefix .insensitive token
  · obtain ⟨name', type', hcut', hprefix⟩ := cutAtSeparator?_relaxed hcut
    rw [beforeSeparator, beforeSeparator, hcut, hcut']
    exact hprefix

theorem name_parameter (options : TypingOptions) {list token : List Char}
    (h : token ∈ tokens list) :
    (parameter options token).name.toList = Text.trim (beforeSeparator options.separator token) := by
  rw [parameter, declaredType?_of_mem_tokens h, beforeSeparator]
  rcases cutAtSeparator? options.separator token with - | ⟨name, type⟩
  · rw [String.toList_ofList, Option.map_none, Option.getD_none,
      (excerpt_of_mem_tokens h).trim_eq_self]
  · rw [String.toList_ofList, Option.map_some, Option.getD_some]

/-- The parameter declares its type. -/
def Declares (mode : SeparatorCase) (token : List Char) : Prop :=
  (declaredType? mode token).isSome = true

/-- The parameters that a text stands for if the separator is in lower case, and if it may be in
    either case: a declared type stays declared, and the name becomes no longer. -/
structure Relaxes (fallback : TypeFallback) (token : List Char) (p q : Parameter) : Prop where
  strict : p = parameter ⟨fallback, .sensitive⟩ token
  relaxed : q = parameter ⟨fallback, .insensitive⟩ token
  declared : Declares .sensitive token → Declares .insensitive token
  name : q.name.toList <+: p.name.toList

theorem relaxes_of_mem_tokens (fallback : TypeFallback) {list token : List Char}
    (h : token ∈ tokens list) :
    Relaxes fallback token (parameter ⟨fallback, .sensitive⟩ token)
      (parameter ⟨fallback, .insensitive⟩ token) where
  strict := rfl
  relaxed := rfl
  declared hdeclares := by
    rw [Declares, declaredType?_of_mem_tokens h, Option.isSome_iff_exists] at hdeclares ⊢
    obtain ⟨⟨name, type⟩, hcut⟩ := hdeclares
    obtain ⟨name', type', hcut', -⟩ := cutAtSeparator?_relaxed hcut
    exact ⟨(name', type'), hcut'⟩
  name := by
    rw [name_parameter _ h, name_parameter _ h]
    exact Text.trim_isPrefix_trim (beforeSeparator_relaxed token)

/-- **Parameters are well formed.** For every text of a list and all options, every parameter has a
    clean name, and a type that it names is clean and not named like a conventional one. No
    parameter starts with a separator. If the separator may be in either case, there are as many
    parameters, one by one with the same name or a start of it, and those that declare their type
    still do. -/
theorem parse_wellFormed (list : List Char) :
    (∀ options, ∀ p ∈ parse options list, p.WellFormed) ∧
      (∀ token ∈ tokens list, ∀ mode, Text.find? separator (searched mode token) ≠ some 0) ∧
      ∀ fallback, List.Forall₂ (fun p q => ∃ token ∈ tokens list, Relaxes fallback token p q)
        (parse ⟨fallback, .sensitive⟩ list) (parse ⟨fallback, .insensitive⟩ list) := by
  refine ⟨fun options p hp => ?_, fun token htoken mode => find?_separator_ne_zero htoken mode,
    fun fallback => ?_⟩
  · obtain ⟨token, htoken, rfl⟩ := List.mem_map.mp hp
    exact parameter_wellFormed options htoken
  · rw [parse, parse, List.forall₂_map_left_iff, List.forall₂_map_right_iff, List.forall₂_same]
    exact fun token htoken => ⟨token, htoken, relaxes_of_mem_tokens fallback htoken⟩

/-- A list with a parameter in which separators of either case stand. -/
def mixedSeparators : List Char := "cName AS Name as Text ;\n, nTotal".toList

theorem parse_wellFormed_mixed :
    parse ⟨.undefined, .sensitive⟩ mixedSeparators =
        [⟨"cName AS Name", some (.named "Text")⟩, ⟨"nTotal", some .numeric⟩] ∧
      parse ⟨.undefined, .insensitive⟩ mixedSeparators =
        [⟨"cName", some (.named "Name as Text")⟩, ⟨"nTotal", some .numeric⟩] ∧
      "cName AS Name as Text".toList ∈ tokens mixedSeparators ∧
      (⟨"cName AS Name", some (.named "Text")⟩ : Parameter).WellFormed ∧
      Text.find? separator (searched .insensitive "cName AS Name as Text".toList) ≠ some 0 ∧
      List.Forall₂
        (fun p q => ∃ token ∈ tokens mixedSeparators, Relaxes .undefined token p q)
        (parse ⟨.undefined, .sensitive⟩ mixedSeparators)
        (parse ⟨.undefined, .insensitive⟩ mixedSeparators) := by
  have hstrict : parse ⟨.undefined, .sensitive⟩ mixedSeparators =
      [⟨"cName AS Name", some (.named "Text")⟩, ⟨"nTotal", some .numeric⟩] := by decide
  have htoken : "cName AS Name as Text".toList ∈ tokens mixedSeparators := by decide
  obtain ⟨hform, hzero, hrelaxes⟩ := parse_wellFormed mixedSeparators
  refine ⟨hstrict, by decide, htoken, hform ⟨.undefined, .sensitive⟩ _ ?_, hzero _ htoken _,
    hrelaxes .undefined⟩
  rw [hstrict]
  exact List.mem_cons_self

end Parameters

end ProgramOutline
