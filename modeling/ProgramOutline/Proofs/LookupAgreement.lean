import ProgramOutline.Proofs.NamedLookup
import ProgramOutline.Proofs.Separation

/-!
# Variables by name and by declaration

A function of an outline knows its variables from the place of its declaration. Asked for by name,
variables are looked for after the first header of the name; but such a header may stand anywhere in
a line, in a comment for instance, where no function is declared. Only if none comes before the
declaration the two agree (`run_lookup`). After a header in a comment even the qualifier of the
declaration is read as a variable (`run_lookup_mentioned`).

Results:
* `exists_namedHeader`: a declaration is a header of its own name, from its first word on.
* `ownVariables_of_bodyOf?`: a function whose body has an end does not need to know where the next
  one is declared.
-/

namespace ProgramOutline

open Grammar Regex Unicode

/-! ## Declarations are headers of their names -/

section Readers

variable {text rest : List Char}

theorem isWord_of_word? {word taken : List Char} (hword : ∀ k ∈ word, IsLetter k)
    (h : word? word text = some (taken, rest)) : ∀ c ∈ taken, isWord c = true :=
  EqualUpToCase.isWord hword (word?_forall₂ h)

theorem calls_of_signature? {s : Signature} (h : signature? text = some (s, rest)) :
    s.Calls s.name := by
  obtain ⟨text₁, text₂, text₃, text₄, hkeyword, hgap, -, hspace, -, hparameters, -⟩ :=
    signature?_eq_some h
  refine ⟨word?_forall₂ hkeyword, (run?_eq_some hgap).2.2, forall_of_run? hgap, .refl _, ?_, ?_⟩
  · rw [hspace]
    exact fun c hc => List.mem_takeWhile_imp hc
  · rw [hparameters]
    intro hclose
    simpa using List.mem_takeWhile_imp hclose

theorem isPreface_optionalQualifier (text : List Char) :
    IsPreface ((optionalQualifier text).1.elim [] Qualifier.text) := by
  rw [optionalQualifier]
  split
  · rename_i q rest hq
    obtain ⟨word, hmem, text₁, hword, hgap⟩ := qualifier?_eq_some hq
    exact Or.inr ⟨q.word, q.gap, rfl, (word_of_qualifier? hq).1,
      isWord_of_word? (qualifiers_letters word hmem) hword, (run?_eq_some hgap).2.2,
      forall_of_run? hgap⟩
  · exact Or.inl rfl

end Readers

/-- A declaration is a header of its own name. It starts where the indent of its line ends. -/
theorem exists_namedHeader {text : List Char} {header : Header} (h : header ∈ headerScan text) :
    ∃ named : NamedHeader, named.In header.name.toList text ∧ named.start = header.offset ∧
      named.stop = header.stop := by
  obtain ⟨before, line, rest, htext, hread, hline, rfl⟩ := mem_headerScan h
  obtain ⟨hindent, hqualifier, hsignature⟩ := headerLine?_eq_some hread
  refine ⟨⟨before ++ line.indent, line.qualifier.elim [] Qualifier.text, line.signature, rest⟩,
    ⟨?_, ?_, ?_, ?_⟩, Text.byteLength_append .., ?_⟩
  · rw [htext, HeaderLine.text, HeaderLine.head]
    simp only [List.append_assoc]
  · rcases List.eq_nil_or_concat line.indent with hnil | ⟨gaps, c, hgaps⟩
    · rcases hline with rfl | hline
      · simp [hnil]
      · intro c hc
        rw [hnil, List.append_nil, hline, Option.mem_some_iff] at hc
        exact hc ▸ by decide
    · have hgap : isGap c = true :=
        List.mem_takeWhile_imp (hindent ▸ (by simp [hgaps] : c ∈ line.indent))
      simp [hgaps, ← List.append_assoc, isWord_of_isGap hgap]
  · rw [hqualifier]
    exact isPreface_optionalQualifier _
  · simpa [HeaderLine.header] using calls_of_signature? hsignature
  · simp [NamedHeader.stop, NamedHeader.start, HeaderLine.header, HeaderLine.text, HeaderLine.head,
      Nat.add_assoc]

/-! ## Bodies that have an end -/

/-- If the body of a function has an end, it is found without the next declaration. -/
theorem ownVariables_of_bodyOf? {text : List Char} {header : Header}
    (hheader : header ∈ headerScan text) (hended : (bodyOf? text header).isSome) :
    ownVariables variablePattern text (Extractor.headers (Rules.compile {}) text) header =
      match findBody text header.offset header.stop none with
      | none => []
      | some body => scanVariables variablePattern text body.bodyStart body.stop := by
  obtain ⟨body, hbody⟩ := Option.isSome_iff_exists.mp hended
  obtain ⟨offset, line, hfirst, hnext, -⟩ := bodyOf?_eq_some hheader hbody
  have hbetween : ¬ DeclaredBetween (Extractor.headers (Rules.compile {}) text) header.offset
      offset := by
    rintro ⟨other, hother, hlt, hle⟩
    rw [headers_default] at hother
    obtain ⟨declared, hdeclared, rfl⟩ := List.mem_map.mp hother
    exact absurd (hnext declared hdeclared hlt) (not_lt.mpr hle)
  rw [← scanHeaders_headerPattern] at hheader
  obtain ⟨hle, hlength⟩ := header_bounds hheader
  rw [ownVariables, findBody_eq hle hlength, hfirst]
  simp only [if_neg hbetween]
  rfl

/-- The body of the function has an end: its return line comes before the next declaration. -/
def FunctionSymbol.Ended (symbol : FunctionSymbol) (text : List Char) : Prop :=
  ∃ header ∈ foundHeaders text, header.offset = symbol.offset ∧ (bodyOf? text header).isSome

/-- No two headers have the same offset. -/
theorem eq_of_offset_eq {text : List Char} {a b : Header} (ha : a ∈ foundHeaders text)
    (hb : b ∈ foundHeaders text) (h : a.offset = b.offset) : a = b := by
  by_contra hne
  have hstop := (foundHeaders_bounds text ha).1
  have hstop' := (foundHeaders_bounds text hb).1
  rw [foundHeaders_eq] at ha hb
  rcases rel_or_rel_of_pairwise (stop_le_offset_headerScan text) ha hb hne with hle | hle <;> omega

/-! ## Agreement -/

/-- **Look-ups by name and by declaration agree** with the default rules, for every function whose
    body has an end, if no header of its name starts before its declaration, be it in a comment or
    within a line. A name that is too long for a pattern has no variables. -/
theorem run_lookup (options : TypingOptions) (text : List Char) {symbol : FunctionSymbol}
    (hsymbol : symbol ∈ (defaultExtractor options).run text) (hended : symbol.Ended text)
    (hfirst : ∀ named : NamedHeader, named.In symbol.name.toList text →
      symbol.offset ≤ named.start) :
    scanVariablesOf variablePattern text symbol.name.toList =
      if (headerOf symbol.name.toList).fits then symbol.vars else [] := by
  have hvars : (defaultExtractor options).rules.vars = some variablePattern := Rules.vars_default
  rw [run_eq_map _ hvars] at hsymbol
  obtain ⟨found, hfound, rfl⟩ := List.mem_map.mp hsymbol
  have hheader : found.2 ∈ foundHeaders text := List.mem_map_of_mem hfound
  obtain ⟨header, hmem, hoffset, hended⟩ := hended
  obtain rfl : header = found.2 := eq_of_offset_eq hmem hheader hoffset
  rw [foundHeaders_eq] at hheader
  obtain ⟨named, hnamed, hstart, hstop⟩ := exists_namedHeader hheader
  split_ifs with hfits
  · have hleftmost : named.First found.2.name.toList text :=
      ⟨hnamed, fun other hother => hstart.trans_le (hfirst other hother)⟩
    rw [show ((defaultExtractor options).symbolOf variablePattern text found).name = found.2.name
      from rfl, hleftmost.scanVariablesOf_eq variablePattern hfits, hstart, hstop]
    exact (ownVariables_of_bodyOf? hheader hended).symm
  · rw [scanVariablesOf]
    exact if_neg hfits

/-- A declaration before a header in a comment. -/
def declaredFirst : List Char := "Static Function A()\nLocal nX\nReturn\n// Function A()\n".toList

theorem run_lookup_declaredFirst : ∃ symbol ∈ (defaultExtractor {}).run declaredFirst,
    symbol.name = "A" ∧ symbol.vars = [⟨"Local", "nX"⟩] ∧
      scanVariablesOf variablePattern declaredFirst ['A'] = symbol.vars := by
  have hrun : ((defaultExtractor {}).run declaredFirst).map
      (fun symbol => (symbol.offset, symbol.name, symbol.vars)) =
        [(0, "A", [⟨"Local", "nX"⟩])] := by
    rw [defaultExtractor, Rules.compile_default]
    decide +kernel
  obtain ⟨symbol, hsymbol, hparts⟩ := List.mem_map.mp (hrun ▸ List.mem_singleton_self _)
  simp only [Prod.mk.injEq] at hparts
  obtain ⟨hoffset, hname, hvars⟩ := hparts
  have hended : symbol.Ended declaredFirst := by
    simp only [FunctionSymbol.Ended, hoffset, foundHeaders_eq, bodyOf?, Rules.compile_default]
    decide +kernel
  have hlookup := run_lookup {} declaredFirst hsymbol hended
    (fun _ _ => hoffset.trans_le (Nat.zero_le _))
  have hfits : (headerOf "A".toList).fits = true := by decide +kernel
  rw [hname, if_pos hfits] at hlookup
  exact ⟨symbol, hsymbol, hname, hvars, hlookup⟩

/-- A header in a comment before the declaration. -/
def mentionedFirst : List Char := "// Function A()\nStatic Function A()\nLocal nX\nReturn\n".toList

/-- By name the qualifier of the declaration is a variable as well. -/
theorem run_lookup_mentioned : ∃ symbol, (defaultExtractor {}).run mentionedFirst = [symbol] ∧
    symbol.name = "A" ∧ symbol.Ended mentionedFirst ∧ symbol.vars = [⟨"Local", "nX"⟩] ∧
    scanVariablesOf variablePattern mentionedFirst symbol.name.toList =
      [⟨"Static", "Function"⟩, ⟨"Local", "nX"⟩] := by
  have hrun : ((defaultExtractor {}).run mentionedFirst).map
      (fun symbol => (symbol.offset, symbol.name, symbol.vars)) =
        [(16, "A", [⟨"Local", "nX"⟩])] := by
    rw [defaultExtractor, Rules.compile_default]
    decide +kernel
  obtain ⟨symbol, hsymbol, hparts⟩ := List.map_eq_singleton_iff.mp hrun
  simp only [Prod.mk.injEq] at hparts
  obtain ⟨hoffset, hname, hvars⟩ := hparts
  have hended : symbol.Ended mentionedFirst := by
    simp only [FunctionSymbol.Ended, hoffset, foundHeaders_eq, bodyOf?, Rules.compile_default]
    decide +kernel
  refine ⟨symbol, hsymbol, hname, hended, hvars, ?_⟩
  rw [hname]
  decide +kernel

end ProgramOutline
