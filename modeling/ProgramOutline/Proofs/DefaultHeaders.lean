import ProgramOutline.Extract
import ProgramOutline.Proofs.Grammar.Header
import ProgramOutline.Proofs.HeaderOrder

/-!
# The headers that the default rule finds

The default function rule finds the header lines of a text, scanned from its start: the scan takes
the first line start at which a header line can be read, and goes on after the closing parenthesis.

Results:
* `compileRule_default`: the default rule is the tree of header lines.
* `scanHeaders_default`: the headers that it finds are those of the header lines.
* `mem_headerScan`: where the line of a header stands in the text.
-/

namespace ProgramOutline

open Regex Grammar Unicode

/-- The default function rule. -/
def headerPattern : Pattern := ⟨defaultFunctionRule, 3, [], HeaderLine.tree⟩

theorem compile_defaultFunctionRule : compile? defaultFunctionRule = some headerPattern := by
  decide +kernel

/-- The header of a header line that starts at `offset`. -/
def Grammar.HeaderLine.header (offset : Nat) (line : HeaderLine) : Header where
  qualifier := line.qualifier.map (fun q => String.ofList q.word)
  name := String.ofList line.signature.name
  parameters := String.ofList line.signature.parameters
  offset := offset + Text.byteLength line.indent
  stop := offset + Text.byteLength line.text

theorem compileRule_of_compile {slot : RuleSlot} {source : String} {pattern : Pattern}
    (htext : ruleText? (some source) = some source) (hcompile : compile? source = some pattern)
    (hgroups : slot.groups ≤ pattern.groups) :
    compileRule slot (some source) = .ok (some pattern) := by
  rw [compileRule, htext]
  dsimp only
  rw [hcompile]
  exact if_neg (not_lt.mpr hgroups)

theorem compileRule_default :
    compileRule (.function .generic) (some defaultFunctionRule) = .ok (some headerPattern) :=
  compileRule_of_compile (by decide) compile_defaultFunctionRule (by decide)

/-! ## The parts of a header line -/

section Parts

variable {text rest : List Char}

theorem keyword_of_signature? {s : Signature} (h : signature? text = some (s, rest)) :
    s.keyword ≠ [] ∧ ∀ c ∈ s.keyword, Text.isBlank c = false := by
  obtain ⟨_, _, _, _, hword, -⟩ := signature?_eq_some h
  have hne : functionWord ≠ [] := by decide
  exact ⟨ne_nil_of_word? hne hword, fun c hc => isBlank_of_word? functionWord_letters hword hc⟩

theorem name_of_signature? {s : Signature} (h : signature? text = some (s, rest)) :
    s.name ≠ [] ∧ ∀ c ∈ s.name, Text.isBlank c = false := by
  obtain ⟨_, _, _, _, -, -, hname, -⟩ := signature?_eq_some h
  exact ⟨(run?_eq_some hname).2.2, fun c hc => isBlank_of_isWord (forall_of_run? hname c hc)⟩

theorem word_of_qualifier? {q : Qualifier} (h : qualifier? text = some (q, rest)) :
    q.word ≠ [] ∧ ∀ c ∈ q.word, Text.isBlank c = false := by
  obtain ⟨word, hmem, _, hword, -⟩ := qualifier?_eq_some h
  have hne : ∀ word ∈ qualifiers, word ≠ [] := by decide
  exact ⟨ne_nil_of_word? (hne word hmem) hword,
    fun c hc => isBlank_of_word? (qualifiers_letters word hmem) hword hc⟩

theorem word_of_optionalQualifier {q : Qualifier} (h : (optionalQualifier text).1 = some q) :
    q.word ≠ [] ∧ ∀ c ∈ q.word, Text.isBlank c = false := by
  unfold optionalQualifier at h
  split at h
  · rename_i hq
    cases h
    exact word_of_qualifier? hq
  · cases h

/-- The blanks that a header line starts with are its indent. -/
theorem takeWhile_isBlank_headerLine {line : HeaderLine}
    (h : headerLine? text = some (line, rest)) :
    line.text.takeWhile Text.isBlank = line.indent := by
  obtain ⟨hindent, hqualifier, hsignature⟩ := headerLine?_eq_some h
  have hblanks : ∀ c ∈ line.indent, Text.isBlank c = true := by
    intro c hc
    rw [hindent] at hc
    exact isBlank_of_isGap (List.mem_takeWhile_imp hc)
  -- the first part after the indent is the qualifier or, without one, the keyword
  rw [HeaderLine.text, HeaderLine.head]
  rcases hq : line.qualifier with - | q
  · obtain ⟨hne, hink⟩ := keyword_of_signature? hsignature
    rw [Option.elim_none, List.append_nil, Signature.text]
    exact Text.takeWhile_isBlank_append hblanks hne hink
  · obtain ⟨hne, hink⟩ := word_of_optionalQualifier (hqualifier.symm.trans hq)
    rw [Option.elim_some, Qualifier.text, List.append_assoc, List.append_assoc]
    exact Text.takeWhile_isBlank_append hblanks hne hink

end Parts

/-! ## From matches to headers -/

section Groups

variable (before rest : List Char) (line : HeaderLine)

/-- The text before the name. -/
def Grammar.HeaderLine.beforeName : List Char :=
  line.head ++ line.signature.keyword ++ line.signature.gap

theorem name_group :
    (line.toMatch (Text.byteLength before)).groupText? (before ++ line.text ++ rest) 2 =
      some line.signature.name := by
  have hgroup : (line.toMatch (Text.byteLength before)).group? 2 =
      some ⟨line.signature.nameStart (Text.byteLength before + Text.byteLength line.head),
        line.signature.nameStart (Text.byteLength before + Text.byteLength line.head) +
          Text.byteLength line.signature.name⟩ := rfl
  apply Match.groupText?_eq (before ++ line.beforeName) line.signature.name
    (line.signature.space ++ '(' :: (line.signature.parameters ++ [')']) ++ rest) hgroup
  · simp [HeaderLine.text, HeaderLine.beforeName, Signature.text]
  · simp [Signature.nameStart, HeaderLine.beforeName, Nat.add_assoc]
  · rfl

theorem parameters_group :
    (line.toMatch (Text.byteLength before)).groupText? (before ++ line.text ++ rest) 3 =
      some line.signature.parameters := by
  have hgroup : (line.toMatch (Text.byteLength before)).group? 3 =
      some ⟨line.signature.parametersStart (Text.byteLength before + Text.byteLength line.head),
        line.signature.parametersStart (Text.byteLength before + Text.byteLength line.head) +
          Text.byteLength line.signature.parameters⟩ := rfl
  have hparen : '('.utf8Size = 1 := rfl
  apply Match.groupText?_eq
    (before ++ line.beforeName ++ line.signature.name ++ line.signature.space ++ ['('])
    line.signature.parameters ([')'] ++ rest) hgroup
  · simp [HeaderLine.text, HeaderLine.beforeName, Signature.text]
  · simp [Signature.parametersStart, Signature.nameStart, HeaderLine.beforeName, Nat.add_assoc,
      hparen]
  · rfl

theorem qualifier_group :
    (line.toMatch (Text.byteLength before)).groupText? (before ++ line.text ++ rest) 1 =
      line.qualifier.map Qualifier.word := by
  rcases hq : line.qualifier with - | q
  · simp [Match.groupText?, Match.group?, HeaderLine.toMatch, Signature.groups,
      HeaderLine.qualifierGroup, hq]
  · have hgroup : (line.toMatch (Text.byteLength before)).group? 1 =
        some ⟨Text.byteLength before + Text.byteLength line.indent,
          Text.byteLength before + Text.byteLength line.indent + Text.byteLength q.word⟩ := by
      simp [Match.group?, HeaderLine.toMatch, Signature.groups, HeaderLine.qualifierGroup, hq]
    apply Match.groupText?_eq (before ++ line.indent) q.word
      (q.gap ++ line.signature.text ++ rest) hgroup
    · simp [HeaderLine.text, HeaderLine.head, hq, Qualifier.text]
    · simp
    · rfl

end Groups

/-- The match for a header line describes the header of that line. -/
theorem ofMatch?_toMatch {before rest : List Char} {line : HeaderLine}
    (h : headerLine? (line.text ++ rest) = some (line, rest)) :
    Header.ofMatch? (before ++ line.text ++ rest) (line.toMatch (Text.byteLength before)) =
      some (line.header (Text.byteLength before)) := by
  obtain ⟨-, hqualifier, hsignature⟩ := headerLine?_eq_some h
  obtain ⟨hne, hname⟩ := name_of_signature? hsignature
  have hword : ((line.qualifier.map Qualifier.word).map Text.trim).filter (fun q => !q.isEmpty) =
      line.qualifier.map Qualifier.word := by
    rcases hq : line.qualifier with - | q
    · rfl
    · obtain ⟨hne, hink⟩ := word_of_optionalQualifier (hqualifier.symm.trans hq)
      simp [Text.trim_of_isBlank hink, hne]
  have hmatched : Text.slice (before ++ line.text ++ rest) (Text.byteLength before)
      (Text.byteLength before + Text.byteLength line.text) = line.text :=
    Text.slice_append before line.text rest rfl rfl
  have hspan : (line.toMatch (Text.byteLength before)).span =
      ⟨Text.byteLength before, Text.byteLength before + Text.byteLength line.text⟩ := rfl
  rw [Header.ofMatch?, name_group, qualifier_group, parameters_group, hspan]
  dsimp only
  rw [hword, hmatched, takeWhile_isBlank_headerLine h]
  simp [Text.trim_of_isBlank hname, hne, HeaderLine.header, Function.comp_def]

/-! ## The headers of a text -/

/-- The headers of a text by the grammar. -/
def headerScan (text : List Char) : List Header :=
  (HeaderLine.reader.scan 0 true 0 text).map (fun found => found.2.header found.1)

/-- A header of a text is that of a header line which starts the text or a line of it. -/
theorem mem_headerScan {text : List Char} {header : Header} (h : header ∈ headerScan text) :
    ∃ before line rest, text = before ++ line.text ++ rest ∧
      headerLine? (line.text ++ rest) = some (line, rest) ∧
      (before = [] ∨ before.getLast? = some '\n') ∧
      header = line.header (Text.byteLength before) := by
  obtain ⟨⟨offset, line⟩, hfound, rfl⟩ := List.mem_map.mp h
  obtain ⟨before, rest, htext, rfl, hread, -, hline⟩ := HeaderLine.reader.mem_scan_text hfound
  exact ⟨before, line, rest, htext, hread, hline, rfl⟩

/-- The default rule matches the header lines. -/
theorem findAll_headerPattern (text : List Char) :
    headerPattern.findAll text =
      (HeaderLine.reader.scan 0 true 0 text).map (fun found => found.2.toMatch found.1) :=
  HeaderLine.tree_reads.findAll_eq HeaderLine.spans rfl text

theorem scanHeaders_headerPattern (text : List Char) :
    scanHeaders headerPattern text = headerScan text := by
  rw [scanHeaders, findAll_headerPattern, List.filterMap_map, headerScan]
  apply HeaderLine.reader.filterMap_scan
  intro before line rest htext hread
  rw [Function.comp_apply, htext]
  exact ofMatch?_toMatch hread

/-- Each header ends before the next one starts. -/
theorem stop_le_offset_headerScan (text : List Char) :
    (headerScan text).Pairwise (fun a b => a.stop ≤ b.offset) := by
  rw [← scanHeaders_headerPattern]
  exact pairwise_scanHeaders headerPattern text

/-- The default rule is a pattern, and it finds the headers of the grammar in every text. -/
theorem scanHeaders_default :
    ∃ pattern, compileRule (.function .generic) (some defaultFunctionRule) = .ok (some pattern) ∧
      ∀ text, scanHeaders pattern text = headerScan text :=
  ⟨headerPattern, compileRule_default, scanHeaders_headerPattern⟩

end ProgramOutline
