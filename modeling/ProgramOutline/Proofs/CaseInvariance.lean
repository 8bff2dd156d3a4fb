import ProgramOutline.Proofs.Concatenation
import ProgramOutline.Proofs.Grammar.LetterCase

/-!
# The case of letters does not matter

With the default rules two texts that differ only in the case of ASCII letters have the same
functions at the same places, with as many parameters and variables, and with the same names up to
case. Both texts are compared with their common lower case, in which the headers, the ends of bodies
and the variables stand where they do in either text.

Results:
* `Parameters.tokens_lower`: the texts of the parameters in a list.
* `headers_lower`, `ownVariables_lower`: headers and variables of a text in lower case.
* `run_upToCase`: the functions of two texts that are equal up to case.
-/

namespace ProgramOutline

open Regex Grammar Unicode
open Text (lower equalIgnoringCase)

/-! ## Names -/

/-- A name in lower case. -/
def lowerName (name : String) : String := String.ofList (lower name.toList)

/-- Two names are equal up to the case of ASCII letters. -/
def SameName (a b : String) : Prop := equalIgnoringCase a.toList b.toList = true

theorem sameName_iff {a b : String} : SameName a b ↔ lowerName a = lowerName b := by
  rw [SameName, Text.equalIgnoringCase_iff, lowerName, lowerName, String.ofList_inj]

theorem lowerName_ofList (text : List Char) :
    lowerName (String.ofList text) = String.ofList (lower text) := by
  rw [lowerName, String.toList_ofList]

/-- Items with the same image belong to one another. -/
theorem forall₂_of_map_eq {α β γ : Type} {f : α → γ} {g : β → γ} {xs : List α} {ys : List β}
    (h : xs.map f = ys.map g) : List.Forall₂ (fun x y => f x = g y) xs ys := by
  have hmaps : List.Forall₂ Eq (xs.map f) (ys.map g) := by
    rw [List.forall₂_eq_eq_eq]
    exact h
  rwa [List.forall₂_map_left_iff, List.forall₂_map_right_iff] at hmaps

/-! ## Parameters -/

namespace Parameters

theorem ignoresCase_isNoise : IgnoresCase isNoise :=
  .or (.beq (by decide)) ignoresCase_isBlank

theorem tokens_lower (list : List Char) : tokens (lower list) = (tokens list).map lower := by
  have hstrip : Text.stripWhile isNoise ∘ lower = lower ∘ Text.stripWhile isNoise :=
    funext (Text.stripWhile_lower ignoresCase_isNoise)
  have hkept : (fun token => !token.isEmpty) ∘ lower = (fun token => !token.isEmpty) := by
    funext token
    rw [Function.comp_apply, Text.lower_isEmpty]
  rw [tokens, tokens, Text.splitOn_lower (by decide), List.map_map, hstrip, ← List.map_map,
    List.filter_map, hkept]

/-- The number of parameters depends neither on the case of letters nor on how they are typed. -/
theorem length_parse_of_lower (options options' : TypingOptions) {list list' : List Char}
    (h : lower list = lower list') :
    (parse options list).length = (parse options' list').length := by
  have htokens := congrArg (fun list => (tokens list).length) h
  simpa [tokens_lower, parse] using htokens

end Parameters

/-! ## Headers -/

/-- A header in lower case. -/
def Header.lower (header : Header) : Header :=
  { header with
    qualifier := header.qualifier.map lowerName
    name := lowerName header.name
    parameters := lowerName header.parameters }

theorem header_lower (line : HeaderLine) (offset : Nat) :
    line.lower.header offset = (line.header offset).lower := by
  have hqualifier : (line.qualifier.map Qualifier.lower).map (fun q => String.ofList q.word) =
      (line.qualifier.map (fun q => String.ofList q.word)).map lowerName := by
    rw [Option.map_map, Option.map_map]
    congr 1
    funext q
    exact (lowerName_ofList q.word).symm
  simp only [HeaderLine.header, Header.lower, line.text_lower, Text.byteLength_lower,
    lowerName_ofList, ← hqualifier]
  simp only [HeaderLine.lower, Signature.lower, Text.byteLength_lower]

theorem headerScan_lower (text : List Char) :
    headerScan (lower text) = (headerScan text).map Header.lower := by
  rw [headerScan, headerScan, LineReader.scan_lower headerLine?_lower, List.map_map, List.map_map]
  apply List.map_congr_left
  intro found _
  exact header_lower found.2 found.1

theorem headers_lower (text : List Char) :
    Extractor.headers (Rules.compile {}) (lower text) =
      (Extractor.headers (Rules.compile {}) text).map (fun found => (found.1, found.2.lower)) := by
  rw [headers_default, headers_default, headerScan_lower, List.map_map, List.map_map]
  rfl

/-! ## Variables -/

/-- A variable in lower case. -/
def Variable.lower (v : Variable) : Variable := ⟨lowerName v.scope, lowerName v.name⟩

theorem variableScan_lower (text : List Char) (start : Nat) :
    variableScan (lower text) start = (variableScan text start).map Variable.lower := by
  rw [variableScan, variableScan, LineReader.scan_lower variableLine?_lower, List.map_map,
    List.map_map]
  apply List.map_congr_left
  intro found _
  simp [VariableLine.variable, VariableLine.lower, Variable.lower, lowerName_ofList]

/-- A function owns the same variables in lower case: the first return line and the declarations
    stand where they did. -/
theorem ownVariables_lower (text : List Char) (found : List (FunctionRule × Header))
    (header : Header) :
    ownVariables variablePattern (lower text)
        (found.map (fun other => (other.1, other.2.lower))) header.lower =
      (ownVariables variablePattern text found header).map Variable.lower := by
  have hbetween : ∀ stop,
      DeclaredBetween (found.map (fun other => (other.1, other.2.lower))) header.offset stop ↔
        DeclaredBetween found header.offset stop := by
    intro stop
    simp [DeclaredBetween, Header.lower]
  have hoffset : header.lower.offset = header.offset := rfl
  have hstop : header.lower.stop = header.stop := rfl
  rw [ownVariables, ownVariables, hoffset, hstop, firstReturn?_lower]
  rcases firstReturn? text header.stop with - | ⟨offset, line⟩
  · rfl
  · simp only [Option.map_some, hbetween, ReturnLine.text_lower, Text.byteLength_lower,
      scanVariables_variablePattern, Text.takeBytes_lower, variableScan_lower]
    split <;> rfl

/-! ## Functions -/

/-- Two functions stand at one place, were found by one rule, have as many parameters, and have the
    same names and the same variables up to case. -/
structure FunctionSymbol.EqualUpToCase (s t : FunctionSymbol) : Prop where
  offset : s.offset = t.offset
  line : s.line = t.line
  rule : s.rule = t.rule
  parameters : s.parameters.length = t.parameters.length
  varCount : s.vars.length = t.vars.length
  name : SameName s.name t.name
  qualifier : Option.Rel SameName s.qualifier t.qualifier
  vars : List.Forall₂ (fun v w => SameName v.scope w.scope ∧ SameName v.name w.name)
    s.vars t.vars

/-- **The case of letters does not matter.** Two texts of one length that differ only in the case
    of ASCII letters have, one by one, the same functions up to case. -/
theorem run_upToCase (options options' : TypingOptions) {text text' : List Char}
    (h : equalIgnoringCase text text' = true) :
    List.Forall₂ FunctionSymbol.EqualUpToCase ((defaultExtractor options).run text)
      ((defaultExtractor options').run text') := by
  have hlower : lower text = lower text' := Text.equalIgnoringCase_iff.mp h
  have hheaders : List.Forall₂
      (fun found found' => (found.1, found.2.lower) = (found'.1, found'.2.lower))
      (Extractor.headers (Rules.compile {}) text) (Extractor.headers (Rules.compile {}) text') := by
    apply forall₂_of_map_eq
    rw [← headers_lower, ← headers_lower, hlower]
  have hvars : ∀ options, (defaultExtractor options).rules.vars = some variablePattern :=
    fun _ => Rules.vars_default
  rw [run_eq_map _ (hvars options), run_eq_map _ (hvars options'), List.forall₂_map_left_iff,
    List.forall₂_map_right_iff]
  refine hheaders.imp ?_
  rintro ⟨rule, header⟩ ⟨rule', header'⟩ heq
  obtain ⟨rfl, hheader⟩ := Prod.mk.inj heq
  dsimp only at hheader
  have hoffset : header.offset = header'.offset := by
    simpa [Header.lower] using congrArg Header.offset hheader
  have hname : lowerName header.name = lowerName header'.name := by
    simpa [Header.lower] using congrArg Header.name hheader
  have hqualifier : header.qualifier.map lowerName = header'.qualifier.map lowerName := by
    simpa only [Header.lower] using congrArg Header.qualifier hheader
  have hparameters : lower header.parameters.toList = lower header'.parameters.toList := by
    simpa [Header.lower, lowerName, String.ofList_inj] using congrArg Header.parameters hheader
  -- in lower case both texts show the same variables
  have hown := ownVariables_lower text (Extractor.headers (Rules.compile {}) text) header
  rw [← headers_lower, hlower, hheader, headers_lower, ownVariables_lower] at hown
  have hall := forall₂_of_map_eq hown.symm
  exact {
    offset := hoffset
    line := by
      change Text.lineOf text header.offset = Text.lineOf text' header'.offset
      rw [← Text.lineOf_lower, hlower, Text.lineOf_lower, hoffset]
    rule := rfl
    parameters := Parameters.length_parse_of_lower options options' hparameters
    varCount := hall.length_eq
    name := sameName_iff.mpr hname
    qualifier := by
      change Option.Rel SameName header.qualifier header'.qualifier
      revert hqualifier
      cases header.qualifier <;> cases header'.qualifier <;> intro hqualifier
      · exact .none
      · cases hqualifier
      · cases hqualifier
      · exact .some (sameName_iff.mpr (Option.some.inj hqualifier))
    vars := hall.imp (fun v w hvw =>
      ⟨sameName_iff.mpr (congrArg Variable.scope hvw),
        sameName_iff.mpr (congrArg Variable.name hvw)⟩) }

theorem run_upToCase_shouted :
    equalIgnoringCase "Static Function Sum(nA, B)\nLocal nC\nReturn nA".toList
        "STATIC FUNCTION SUM(NA, b)\nlocal NC\nreturn na".toList = true ∧
      List.Forall₂ FunctionSymbol.EqualUpToCase
        ((defaultExtractor {}).run "Static Function Sum(nA, B)\nLocal nC\nReturn nA".toList)
        ((defaultExtractor {}).run "STATIC FUNCTION SUM(NA, b)\nlocal NC\nreturn na".toList) :=
  ⟨by decide, run_upToCase {} {} (by decide)⟩

end ProgramOutline
