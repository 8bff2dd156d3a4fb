import ProgramOutline.Proofs.DefaultVariables
import ProgramOutline.Proofs.NamedHeaders

/-!
# Variables by name

The variables of a function can be asked for by its name alone. The name is taken literally, in any
case: the pattern into which it is put stands for the headers of functions with just that name, and
the variables are those of the body after the first of them.

A header found for a name belongs to a declared identifier only if the two are equally long, for an
identifier is the whole word before the parameter list. The empty name is an exception: a header
without a name reads a function that is itself called `Function` (`NamedHeader.In.whole_word`).

Results:
* `NamedHeader.First.scanVariablesOf_eq`: the variables are those of the first header.
* `scanVariablesOf_literal`: the name is taken literally.
* `scanVariablesOf_unnamed`: the exception.
-/

namespace ProgramOutline

open Grammar Regex Unicode

/-! ## The word before a parameter list -/

/-- A text ends in one way with characters of a kind that come after another kind. -/
theorem run_unique {p : Char → Bool} {a b r s : List Char} (h : a ++ r = b ++ s)
    (hr : ∀ c ∈ r, p c = true) (hs : ∀ c ∈ s, p c = true) (ha : ∀ c ∈ a.getLast?, p c = false)
    (hb : ∀ c ∈ b.getLast?, p c = false) : a = b ∧ r = s := by
  -- what one start has more than the other would be of both kinds
  have hnone : ∀ {x y t : List Char}, (∀ c ∈ (x ++ t).getLast?, p c = false) →
      (∀ c ∈ t ++ y, p c = true) → t = [] := by
    intro x y t hlast hall
    rcases List.eq_nil_or_concat t with rfl | ⟨more, c, rfl⟩
    · rfl
    · have hc := hall c (by simp)
      rw [hlast c (by simp [← List.append_assoc])] at hc
      cases hc
  rcases List.append_eq_append_iff.mp h with ⟨t, rfl, rfl⟩ | ⟨t, rfl, rfl⟩
  · obtain rfl := hnone hb hr
    simp
  · obtain rfl := hnone ha hs
    simp

namespace NamedHeader

/-- What stands before the name. -/
def beforeName (h : NamedHeader) : List Char :=
  h.before ++ (h.lead ++ (h.signature.keyword ++ h.signature.gap))

theorem before_head (h : NamedHeader) :
    h.before ++ h.head = (h.beforeName ++ h.signature.name) ++ h.signature.space := by
  simp [head, beforeName]

variable {h d : NamedHeader} {name text : List Char}

namespace In

/-- Headers whose parameter lists open at the same place have the same text before them. -/
theorem cut_eq {name' : List Char} (hin : h.In name text) (hd : d.In name' text)
    (hopening : h.opening = d.opening) : h.before ++ h.head = d.before ++ d.head := by
  have htext := hin.text_eq_head.symm.trans hd.text_eq_head
  rw [← List.append_assoc, ← List.append_assoc] at htext
  refine (Text.cut_at_offset htext ?_).1
  rw [Text.byteLength_append, Text.byteLength_append]
  exact hopening

theorem keyword_ne_nil (hin : h.In name text) : h.signature.keyword ≠ [] := by
  intro hnil
  have hlength := hin.calls.keyword.length_eq
  rw [hnil] at hlength
  exact absurd hlength (by decide)

theorem keyword_word (hin : h.In name text) : ∀ c ∈ h.signature.keyword, isWord c = true :=
  hin.calls.keyword.isWord functionWord_letters

/-- What comes before the keyword does not end in a word. -/
theorem before_keyword (hin : h.In name text) :
    ∀ c ∈ (h.before ++ h.lead).getLast?, isWord c = false := by
  rcases hin.lead with hlead | ⟨word, blanks, hlead, -, -, hne, hblanks⟩
  · simpa [hlead] using hin.boundary
  · rw [hlead, ← List.append_assoc, List.getLast?_append_of_ne_nil _ hne]
    exact fun c hc => isWord_of_isGap (hblanks c (List.mem_of_getLast? hc))

theorem beforeName_gap (hin : h.In name text) : ∀ c ∈ h.beforeName.getLast?, isGap c = true := by
  rw [beforeName, ← List.append_assoc, ← List.append_assoc,
    List.getLast?_append_of_ne_nil _ hin.calls.gap_ne_nil]
  exact fun c hc => hin.calls.gap c (List.mem_of_getLast? hc)

/-- What comes before the parameter list of a declared identifier ends in the identifier. -/
theorem name_last (hidentifier : ∀ c ∈ d.signature.name, isWord c = true)
    (hne : d.signature.name ≠ []) :
    ∀ c ∈ (d.beforeName ++ d.signature.name).getLast?, isGap c = false := by
  rw [List.getLast?_append_of_ne_nil _ hne]
  exact fun c hc => not_isGap_of_isWord (hidentifier c (List.mem_of_getLast? hc))

/-- Without a name the keyword of the header is the identifier, and the blanks after it are those
    after the identifier. -/
theorem keyword_eq_identifier (hin : h.In [] text) (hd : d.In d.signature.name text)
    (hidentifier : ∀ c ∈ d.signature.name, isWord c = true) (hne : d.signature.name ≠ [])
    (hopening : h.opening = d.opening) :
    h.signature.keyword = d.signature.name ∧
      h.signature.gap ++ h.signature.space = d.signature.space := by
  have hnone : h.signature.name = [] := List.forall₂_nil_left_iff.mp hin.calls.name
  have hcut := hin.cut_eq hd hopening
  rw [before_head, before_head, hnone, List.append_nil, beforeName, ← List.append_assoc,
    ← List.append_assoc, List.append_assoc] at hcut
  have hkeyword : ∀ c ∈ ((h.before ++ h.lead) ++ h.signature.keyword).getLast?,
      isGap c = false := by
    rw [List.getLast?_append_of_ne_nil _ hin.keyword_ne_nil]
    exact fun c hc => not_isGap_of_isWord (hin.keyword_word c (List.mem_of_getLast? hc))
  have hblanks : ∀ c ∈ h.signature.gap ++ h.signature.space, isGap c = true :=
    List.forall_mem_append.mpr ⟨hin.calls.gap, hin.calls.space⟩
  obtain ⟨hword, hspace⟩ :=
    run_unique hcut hblanks hd.calls.space hkeyword (name_last hidentifier hne)
  exact ⟨(run_unique hword hin.keyword_word hidentifier hin.before_keyword
    (fun c hc => isWord_of_isGap (hd.beforeName_gap c hc))).2, hspace⟩

/-- A name without blanks is at least as long as the identifier. -/
theorem identifier_length_le (hin : h.In name text) (hd : d.In d.signature.name text)
    (hidentifier : ∀ c ∈ d.signature.name, isWord c = true) (hne : d.signature.name ≠ [])
    (hnone : h.signature.name ≠ []) (hgaps : ∀ c ∈ h.signature.name, isGap c = false)
    (hopening : h.opening = d.opening) : d.signature.name.length ≤ h.signature.name.length := by
  have hcut := hin.cut_eq hd hopening
  rw [before_head, before_head] at hcut
  have hlast : ∀ c ∈ (h.beforeName ++ h.signature.name).getLast?, isGap c = false := by
    rw [List.getLast?_append_of_ne_nil _ hnone]
    exact fun c hc => hgaps c (List.mem_of_getLast? hc)
  obtain ⟨hword, -⟩ :=
    run_unique hcut hin.calls.space hd.calls.space hlast (name_last hidentifier hne)
  rcases List.append_eq_append_iff.mp hword with ⟨t, -, ht⟩ | ⟨t, hbefore, ht⟩
  · rw [ht, List.length_append]
    omega
  · -- the blanks before the name cannot end within the identifier
    rcases List.eq_nil_or_concat t with rfl | ⟨more, c, rfl⟩
    · rw [ht, List.nil_append]
    · have hgap : isGap c = true := hin.beforeName_gap c (by simp [hbefore])
      have hword : isWord c = true := hidentifier c (by simp [ht])
      rw [isWord_of_isGap hgap] at hword
      cases hword

/-- If a header that is looked up is the declaration of an identifier that starts with the name, the
    name is the whole identifier. Only if no name is looked up it may be nothing; then the
    identifier is taken for the keyword. -/
theorem whole_word (hin : h.In name text) (hd : d.In d.signature.name text)
    (hidentifier : ∀ c ∈ d.signature.name, isWord c = true) {first more : List Char}
    (hsplit : d.signature.name = first ++ more) (hmore : more ≠ [])
    (hname : EqualUpToCase name first) (hopening : h.opening = d.opening) :
    name = [] ∧ EqualUpToCase functionWord d.signature.name ∧ d.signature.space ≠ [] := by
  have hne : d.signature.name ≠ [] := by
    rw [hsplit]
    exact List.append_ne_nil_of_right_ne_nil _ hmore
  by_cases hempty : name = []
  · subst hempty
    obtain ⟨hkeyword, hspace⟩ := hin.keyword_eq_identifier hd hidentifier hne hopening
    refine ⟨rfl, hkeyword ▸ hin.calls.keyword, ?_⟩
    rw [← hspace]
    exact List.append_ne_nil_of_left_ne_nil hin.calls.gap_ne_nil _
  · have hnone : h.signature.name ≠ [] := fun hnil =>
      hempty (List.forall₂_nil_right_iff.mp (hnil ▸ hin.calls.name))
    have hfirst : ∀ c ∈ first, isWord c = true :=
      fun c hc => hidentifier c (hsplit ▸ List.mem_append_left _ hc)
    have hgaps : ∀ c ∈ h.signature.name, isGap c = false :=
      not_isGap_of_equalUpToCase hfirst (hname.trans_left hin.calls.name)
    have hle := hin.identifier_length_le hd hidentifier hne hnone hgaps hopening
    rw [hsplit, List.length_append, ← hname.length_eq, hin.calls.name.length_eq] at hle
    have := List.length_pos_iff.mpr hmore
    omega

end In

/-! ## The variables of a named function -/

/-- The variables that are found by name are those of the body after the first header. -/
theorem First.scanVariablesOf_eq (hfirst : h.First name text) (rule : Pattern)
    (hfits : (headerOf name).fits = true) :
    scanVariablesOf rule text name =
      match findBody text h.start h.stop none with
      | none => []
      | some body => scanVariables rule text body.bodyStart body.stop := by
  obtain ⟨m, hfound, hspan⟩ := hfirst.findFrom_eq
  cases hbody : findBody text h.start h.stop none <;>
    simp [scanVariablesOf, hfits, hfound, hspan, hbody]

end NamedHeader

/-- Where there is no header of the name, no variables are found. -/
theorem scanVariablesOf_of_none {name text : List Char}
    (hnone : ∀ h : NamedHeader, ¬ h.In name text) (rule : Pattern) :
    scanVariablesOf rule text name = [] := by
  rw [scanVariablesOf]
  cases hfound : (headerOf name).plain.findFrom text 0 with
  | none => simp
  | some m =>
    obtain ⟨h, hfirst, -⟩ := (NamedHeader.findFrom_headerOf name text).2 m hfound
    exact absurd hfirst.header (hnone h)

/-- **A name is taken literally.** Put into the pattern for a header with its special characters
    quoted, each of its characters stands for itself in either case. For every text and every rule
    the variables are those of the body after the first header of the name, and none if there is no
    such header. A name that only starts a declared identifier does not find its declaration, but
    for the empty name, which finds a function called `Function`. -/
theorem scanVariablesOf_literal (rule : Pattern) (text name : List Char)
    (hfits : (headerOf name).fits = true) :
    parse? eitherCase (headerSource name) = some (headerOf name) ∧
      ((∀ h : NamedHeader, ¬ h.In name text) → scanVariablesOf rule text name = []) ∧
      (∀ h : NamedHeader, h.First name text → scanVariablesOf rule text name =
        match findBody text h.start h.stop none with
        | none => []
        | some body => scanVariables rule text body.bodyStart body.stop) ∧
      ∀ h d : NamedHeader, h.In name text → d.In d.signature.name text →
        (∀ c ∈ d.signature.name, isWord c = true) →
        (∃ first more, d.signature.name = first ++ more ∧ more ≠ [] ∧
          EqualUpToCase name first) →
        h.opening = d.opening →
        name = [] ∧ EqualUpToCase functionWord d.signature.name ∧ d.signature.space ≠ [] := by
  refine ⟨parse?_headerSource name, fun hnone => scanVariablesOf_of_none hnone rule,
    fun h hfirst => hfirst.scanVariablesOf_eq rule hfits, ?_⟩
  rintro h d hin hd hidentifier ⟨first, more, hsplit, hmore, hname⟩ hopening
  exact hin.whole_word hd hidentifier hsplit hmore hname hopening

/-- A function whose name has a special character. -/
def dottedName : List Char := "static function A.B (x)
Local n
Return
".toList

theorem scanVariablesOf_dotted : ∃ h : NamedHeader, h.First "a.b".toList dottedName ∧
    scanVariablesOf variablePattern dottedName "a.b".toList = [⟨"Local", "n"⟩] := by
  have hgap : ∀ c ∈ [' '], isGap c = true := List.all_eq_true.mp (by decide)
  have hlead : IsPreface "static ".toList :=
    Or.inr ⟨"static".toList, [' '], rfl, by decide, List.all_eq_true.mp (by decide),
      by decide, hgap⟩
  have hcalls : (⟨"function".toList, [' '], "A.B".toList, [' '], ['x']⟩ : Signature).Calls
      "a.b".toList :=
    ⟨by decide, by decide, hgap, by decide, hgap, by decide⟩
  have hfirst : NamedHeader.First ⟨[], "static ".toList, _, "\nLocal n\nReturn\n".toList⟩
      "a.b".toList dottedName :=
    ⟨⟨rfl, by simp, hlead, hcalls⟩, fun _ _ => Nat.zero_le _⟩
  obtain ⟨-, -, hscan, -⟩ := scanVariablesOf_literal variablePattern dottedName "a.b".toList
    (by decide +kernel)
  exact ⟨_, hfirst, (hscan _ hfirst).trans (by decide)⟩

/-- A function that is called like the keyword. -/
def keywordNamed : List Char := "Function Function ()\nLocal a\nReturn\n".toList

/-- The empty name, of which every identifier has more, finds a function called `Function`. -/
theorem scanVariablesOf_unnamed : ∃ h d : NamedHeader, h.First [] keywordNamed ∧
    d.In d.signature.name keywordNamed ∧ (∀ c ∈ d.signature.name, isWord c = true) ∧
    d.signature.name ≠ [] ∧ h.opening = d.opening ∧
    scanVariablesOf variablePattern keywordNamed [] = [⟨"Local", "a"⟩] := by
  have hgap : ∀ c ∈ [' '], isGap c = true := List.all_eq_true.mp (by decide)
  have hword : ∀ c ∈ functionWord, isWord c = true :=
    (EqualUpToCase.refl _).isWord functionWord_letters
  have hlead : IsPreface "Function ".toList :=
    Or.inr ⟨functionWord, [' '], rfl, by decide, hword, by decide, hgap⟩
  have hunnamed : (⟨functionWord, [' '], [], [], []⟩ : Signature).Calls [] :=
    ⟨.refl _, by decide, hgap, .refl _, by simp, by decide⟩
  have hnamed : (⟨functionWord, [' '], functionWord, [' '], []⟩ : Signature).Calls functionWord :=
    ⟨.refl _, by decide, hgap, .refl _, hgap, by decide⟩
  exact ⟨⟨[], "Function ".toList, _, "\nLocal a\nReturn\n".toList⟩,
    ⟨[], [], _, "\nLocal a\nReturn\n".toList⟩,
    ⟨⟨rfl, by simp, hlead, hunnamed⟩, fun _ _ => Nat.zero_le _⟩,
    ⟨rfl, by simp, Or.inl rfl, hnamed⟩, hword, by decide, rfl, by decide +kernel⟩

end ProgramOutline
