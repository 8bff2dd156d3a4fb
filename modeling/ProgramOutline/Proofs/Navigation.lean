import ProgramOutline.Proofs.Grammar.LetterCase
import ProgramOutline.Proofs.Separation
import ProgramOutline.Proofs.SessionRuns
import ProgramOutline.Proofs.Text.Pieces

/-!
# Navigation to a declaration

A function knows the line of its header by number, and a session turns the number into a cursor
target in the active document. The functions of a session are always those of its active document,
so with the default rules the cursor is placed on the line that declares the function.

Results:
* `declares_of_headerLine?`: a header line declares its function in its first line, wherever the
  parameter list ends.
* `header_line`: the line feeds before a header number the line that it starts in.
* `navigate_lineOf`: the cursor target for the line of an offset.
* `navigate_declares`: in every reachable state navigation leads to the declaration.
-/

namespace ProgramOutline

open Regex Grammar Unicode

/-! ## Lines that declare a function -/

/-- The lines of a text, without their line feeds. -/
def Text.lines (text : List Char) : List (List Char) := splitOn '\n' text

/-- Nothing but spaces and tabs. -/
def AllGap (text : List Char) : Prop := ∀ c ∈ text, isGap c = true

/-- What stands before the keyword: a qualifier and a gap, or nothing if there is no qualifier. -/
def IsLead : Option String → List Char → Prop
  | none, lead => lead = []
  | some q, lead => ∃ gap, lead = q.toList ++ gap ∧ gap ≠ [] ∧ AllGap gap

/-- The line declares a function: an indent, the qualifier if there is one, the keyword in some
    case, the name, and then nothing but a gap before an opening parenthesis. -/
def DeclaresFunction (qualifier : Option String) (name : String) (line : List Char) : Prop :=
  ∃ indent lead keyword gap space after,
    line = indent ++ lead ++ keyword ++ gap ++ name.toList ++ space ++ '(' :: after ∧
      AllGap indent ∧ IsLead qualifier lead ∧
      Text.equalIgnoringCase keyword "Function".toList = true ∧ gap ≠ [] ∧ AllGap gap ∧
      AllGap space

/-! ## The keyword -/

theorem functionWord_plain : ∀ k ∈ functionWord, IsPlainLetter k := by
  have hall : functionWord.all (fun k => decide (IsPlainLetter k)) = true := by decide
  exact fun k hk => of_decide_eq_true (List.all_eq_true.mp hall k hk)

theorem equalIgnoringCase_keyword {text taken rest : List Char}
    (h : word? functionWord text = some (taken, rest)) :
    Text.equalIgnoringCase taken "Function".toList = true := by
  rw [word?_plain functionWord_plain] at h
  split at h
  · rename_i hword
    cases h
    exact hword
  · cases h

/-! ## Header lines -/

theorem AllGap.of_takeWhile (text : List Char) : AllGap (text.takeWhile isGap) :=
  fun _ hc => List.mem_takeWhile_imp hc

theorem AllGap.ne_break {text : List Char} (h : AllGap text) : ∀ c ∈ text, (c != '\n') = true := by
  intro c hc
  simp only [bne_iff_ne]
  rintro rfl
  cases (h _ hc).symm.trans isGap_break

theorem ne_break_of_ink {text : List Char} (h : ∀ c ∈ text, Text.isBlank c = false) :
    ∀ c ∈ text, (c != '\n') = true := by
  intro c hc
  simpa using ne_break_of_isBlank (h c hc)

/-- The part before the keyword is a lead and stands in one line. -/
theorem isLead_optionalQualifier (text : List Char) :
    IsLead ((optionalQualifier text).1.map (fun q => String.ofList q.word))
        ((optionalQualifier text).1.elim [] Qualifier.text) ∧
      ∀ c ∈ (optionalQualifier text).1.elim [] Qualifier.text, (c != '\n') = true := by
  rw [optionalQualifier]
  split
  · rename_i q rest hq
    obtain ⟨word, hmem, text₁, hword, hgap⟩ := qualifier?_eq_some hq
    have hink : ∀ c ∈ q.word, Text.isBlank c = false := (word_of_qualifier? hq).2
    have hall : AllGap q.gap := forall_of_run? hgap
    refine ⟨⟨q.gap, by simp [Qualifier.text], (run?_eq_some hgap).2.2, hall⟩, ?_⟩
    intro c hc
    rcases List.mem_append.mp hc with hc | hc
    · exact ne_break_of_ink hink c hc
    · exact hall.ne_break c hc
  · exact ⟨rfl, fun c hc => by cases hc⟩

/-- A header line declares its function in the line that it starts in. -/
theorem declares_of_headerLine? {text rest : List Char} {line : HeaderLine}
    (h : headerLine? text = some (line, rest)) :
    DeclaresFunction (line.qualifier.map (fun q => String.ofList q.word))
      (String.ofList line.signature.name) (text.takeWhile (· != '\n')) := by
  obtain ⟨hindent, hqualifier, hsignature⟩ := headerLine?_eq_some h
  obtain ⟨text₁, text₂, text₃, text₄, hkeyword, hgap, hname, hspace, -, -, -⟩ :=
    signature?_eq_some hsignature
  obtain ⟨hlead, hleadBreak⟩ := isLead_optionalQualifier (text.dropWhile isGap)
  rw [← hqualifier] at hlead hleadBreak
  have hindentGap : AllGap line.indent := hindent ▸ AllGap.of_takeWhile text
  have hspaceGap : AllGap line.signature.space := hspace ▸ AllGap.of_takeWhile text₃
  have hgapGap : AllGap line.signature.gap := forall_of_run? hgap
  have hkeywordInk := (keyword_of_signature? hsignature).2
  have hnameInk := (name_of_signature? hsignature).2
  have hsplit : text =
      line.indent ++ (line.qualifier.elim [] Qualifier.text ++ (line.signature.keyword ++
        (line.signature.gap ++ (line.signature.name ++ (line.signature.space ++
          '(' :: (line.signature.parameters ++ ')' :: rest)))))) := by
    rw [headerLine?_split h, HeaderLine.text, HeaderLine.head, Signature.text]
    simp only [List.append_assoc, List.cons_append, List.nil_append]
  -- up to the parenthesis there is no line feed
  refine ⟨line.indent, line.qualifier.elim [] Qualifier.text, line.signature.keyword,
    line.signature.gap, line.signature.space,
    (line.signature.parameters ++ ')' :: rest).takeWhile (· != '\n'), ?_, hindentGap, hlead,
    equalIgnoringCase_keyword hkeyword, (run?_eq_some hgap).2.2, hgapGap, hspaceGap⟩
  rw [hsplit, List.takeWhile_append_of_pos hindentGap.ne_break,
    List.takeWhile_append_of_pos hleadBreak,
    List.takeWhile_append_of_pos (ne_break_of_ink hkeywordInk),
    List.takeWhile_append_of_pos hgapGap.ne_break,
    List.takeWhile_append_of_pos (ne_break_of_ink hnameInk),
    List.takeWhile_append_of_pos hspaceGap.ne_break,
    List.takeWhile_cons_of_pos (p := (· != '\n')) (by decide)]
  simp only [List.append_assoc, String.toList_ofList]

/-- The line feeds before a header number the line that declares its function. -/
theorem header_line {text : List Char} {header : Header} (h : header ∈ headerScan text) :
    ∃ line, (Text.lines text)[Text.breaksBefore header.offset text]? = some line ∧
      DeclaresFunction header.qualifier header.name line := by
  obtain ⟨before, item, rest, htext, hread, hline, rfl⟩ := mem_headerScan h
  have hgap : AllGap item.indent := (headerLine?_eq_some hread).1 ▸ AllGap.of_takeWhile _
  have hcount : item.indent.count '\n' = 0 := by
    rw [List.count_eq_zero]
    intro hbreak
    cases (hgap _ hbreak).symm.trans isGap_break
  have hbreaks : Text.breaksBefore (Text.byteLength before + Text.byteLength item.indent) text =
      before.count '\n' := by
    obtain ⟨tail, htail⟩ : ∃ tail, text = before ++ item.indent ++ tail :=
      ⟨item.qualifier.elim [] Qualifier.text ++ item.signature.text ++ rest, by
        rw [htext, HeaderLine.text, HeaderLine.head]
        simp only [List.append_assoc]⟩
    rw [htail, ← Text.byteLength_append, Text.breaksBefore_byteLength, List.count_append, hcount,
      Nat.add_zero]
  refine ⟨(item.text ++ rest).takeWhile (· != '\n'), ?_, declares_of_headerLine? hread⟩
  rw [HeaderLine.header, hbreaks, htext, List.append_assoc]
  exact Text.getElem?_splitOn '\n' hline _

/-! ## Cursor targets -/

/-- The cursor target for the line of an offset is at the line feeds before it. -/
theorem Session.navigate_lineOf {s : Session} (hactive : s.active.isSome = true) {text : List Char}
    {offset : Nat} (h : Text.breaksBefore offset text + 1 < 2 ^ 32) :
    ∃ target, s.navigate (Text.lineOf text offset) = some target ∧ target.column = 0 ∧
      target.line.toNat = Text.breaksBefore offset text := by
  have hword : (Text.lineOf text offset).toNat = Text.breaksBefore offset text + 1 := by
    rw [Text.lineOf, UInt32.toNat_ofNat_of_lt' h]
  have hne : Text.lineOf text offset ≠ 0 := by
    intro hzero
    rw [hzero] at hword
    simp at hword
  have hle : (1 : UInt32) ≤ Text.lineOf text offset := by
    rw [UInt32.le_iff_toNat_le, hword]
    simp
  have hnone : s.active.isNone = false := by
    rw [Option.isNone_eq_false_iff, hactive]
  refine ⟨⟨Text.lineOf text offset - 1, 0⟩, ?_, rfl, ?_⟩
  · simp [Session.navigate, hnone, hne]
  · rw [UInt32.toNat_sub_of_le _ _ hle, hword]
    simp

namespace Session

/-- With the default rules the functions of a session are those that they find in its active
    document. -/
theorem functions_run {config : Config} (hrules : config.rules = {}) {operations : List Operation}
    {document : Document} (hactive : ((start config).run operations).active = some document) :
    ((start config).run operations).functions =
      (defaultExtractor config.typing).run document.text := by
  have hfresh := (fresh_start config).run operations
  have hextractor : (start config).extractor = defaultExtractor config.typing := by
    rw [start, Config.extractor, hrules]
    rfl
  rw [Fresh, extractor_run, hactive, hextractor] at hfresh
  exact hfresh

/-- **Navigation leads to the declaration.** With the default rules, in every state that a session
    reaches while a document of fewer than `2 ^ 32` lines is active, the cursor target for the line
    of a function is at the start of a line of that document, and this line declares a function
    with its qualifier and its name. -/
theorem navigate_declares {config : Config} (hrules : config.rules = {})
    {operations : List Operation} {document : Document}
    (hactive : ((start config).run operations).active = some document)
    (hlines : (Text.lines document.text).length < 2 ^ 32) {symbol : FunctionSymbol}
    (hsymbol : symbol ∈ ((start config).run operations).functions) :
    ∃ target, ((start config).run operations).navigate symbol.line = some target ∧
      target.column = 0 ∧
      ∃ h : target.line.toNat < (Text.lines document.text).length,
        DeclaresFunction symbol.qualifier symbol.name
          (Text.lines document.text)[target.line.toNat] := by
  have hvars : (defaultExtractor config.typing).rules.vars = some variablePattern :=
    Rules.vars_default
  rw [functions_run hrules hactive, run_eq_map _ hvars] at hsymbol
  obtain ⟨⟨rule, header⟩, hfound, rfl⟩ := List.mem_map.mp hsymbol
  have hheader : header ∈ headerScan document.text := by
    rw [← foundHeaders_eq]
    exact List.mem_map.mpr ⟨(rule, header), hfound, rfl⟩
  obtain ⟨line, hline, hdeclares⟩ := header_line hheader
  obtain ⟨hbound, rfl⟩ := List.getElem?_eq_some_iff.mp hline
  obtain ⟨target, htarget, hcolumn, hplace⟩ :=
    navigate_lineOf (s := (start config).run operations) (by rw [hactive]; rfl)
      (Nat.lt_of_le_of_lt hbound hlines)
  refine ⟨target, htarget, hcolumn, hplace ▸ hbound, ?_⟩
  simp only [hplace]
  exact hdeclares

/-- A document whose second line, after a letter of two bytes, declares a function. -/
def indented : Document :=
  ⟨"a.prw", "é\r\n\tStatic  Function A (\nx)\nReturn".toList⟩

theorem navigate_declares_indented :
    ((start {}).run [.event (.activeChanged (some indented))]).active = some indented ∧
      (Text.lines indented.text).length < 2 ^ 32 ∧
      ∃ symbol ∈ ((start {}).run [.event (.activeChanged (some indented))]).functions,
        symbol.name = "A" ∧ symbol.qualifier = some "Static" ∧
        ∃ target,
          ((start {}).run [.event (.activeChanged (some indented))]).navigate symbol.line =
              some target ∧
            target.column = 0 ∧
            ∃ h : target.line.toNat < (Text.lines indented.text).length,
              DeclaresFunction symbol.qualifier symbol.name
                (Text.lines indented.text)[target.line.toNat] := by
  have hactive : ((start {}).run [.event (.activeChanged (some indented))]).active =
      some indented := rfl
  have hlines : (Text.lines indented.text).length < 2 ^ 32 := by decide
  have hheader : ⟨some "Static", "A", "\nx", 5, 28⟩ ∈ scanHeaders headerPattern indented.text := by
    decide
  rw [scanHeaders_headerPattern, ← foundHeaders_eq] at hheader
  obtain ⟨found, hfound, hheader⟩ := List.mem_map.mp hheader
  have hvars : (defaultExtractor {}).rules.vars = some variablePattern := Rules.vars_default
  have hsymbol : (defaultExtractor {}).symbolOf variablePattern indented.text found ∈
      ((start {}).run [.event (.activeChanged (some indented))]).functions := by
    rw [functions_run rfl hactive, run_eq_map _ hvars]
    exact List.mem_map_of_mem hfound
  refine ⟨hactive, hlines, _, hsymbol, ?_, ?_, navigate_declares rfl hactive hlines hsymbol⟩
  · exact congrArg Header.name hheader
  · exact congrArg Header.qualifier hheader

end Session

end ProgramOutline
