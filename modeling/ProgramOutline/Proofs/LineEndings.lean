import ProgramOutline.Proofs.Concatenation
import ProgramOutline.Proofs.Grammar.LineEndings
import ProgramOutline.Proofs.ParamTypes
import ProgramOutline.Proofs.Separator

/-!
# Line endings

A text with a carriage return before every line feed has the functions of the text without them.
They stand later by the line feeds before them, and texts of parameters that go over several lines
hold the carriage returns too.

Results:
* `Parameters.parse_crlf`: the parameters in a list.
* `headerScan_crlf`, `ownVariables_crlf`: headers and variables.
* `run_crlf`: the functions of a text.
-/

namespace ProgramOutline

open Regex Grammar
open Text (crlf crlfOffset)

/-! ## Parameters -/

/-- A type after carriage returns have been put in: its name, if it has one of its own. -/
def ParamType.crlf : ParamType → ParamType
  | .named name => .named (String.ofList (Text.crlf name.toList))
  | other => other

/-- A parameter after carriage returns have been put in. -/
def Parameter.crlf (p : Parameter) : Parameter :=
  ⟨String.ofList (Text.crlf p.name.toList), p.type.map ParamType.crlf⟩

theorem ParamType.crlf_of_notMem {t : ParamType} (h : '\n' ∉ t.name.toList) : t.crlf = t := by
  cases t with
  | named name =>
    have hname : '\n' ∉ name.toList := h
    rw [ParamType.crlf, Text.crlf_of_notMem hname, String.ofList_toList]
  | _ => rfl

theorem Parameter.crlf_of_notMem {p : Parameter} (hname : '\n' ∉ p.name.toList)
    (htype : ∀ t ∈ p.type, '\n' ∉ t.name.toList) : p.crlf = p := by
  obtain ⟨name, type⟩ := p
  have hmap : type.map ParamType.crlf = type := by
    cases type with
    | none => rfl
    | some t => rw [Option.map_some, ParamType.crlf_of_notMem (htype t rfl)]
  rw [Parameter.crlf, hmap, Text.crlf_of_notMem hname, String.ofList_toList]

/-- No conventional type has a line feed in its name. -/
theorem ParamType.ofName_of_mem_break {name : String} (h : '\n' ∈ name.toList) :
    ParamType.ofName name = .named name := by
  unfold ParamType.ofName
  split
  all_goals first | rfl | exact absurd h (by decide)

theorem ParamType.ofName_crlf (text : List Char) :
    ParamType.ofName (String.ofList (Text.crlf text)) =
      (ParamType.ofName (String.ofList text)).crlf := by
  by_cases h : '\n' ∈ text
  · have hcrlf := Text.mem_crlf_break.mpr h
    have hname : ofName (String.ofList text) = .named (String.ofList text) :=
      ofName_of_mem_break (by simpa using h)
    rw [hname, ofName_of_mem_break (by simpa using hcrlf), ParamType.crlf, String.toList_ofList]
  · rw [Text.crlf_of_notMem h, ParamType.crlf_of_notMem]
    rw [ParamType.name_ofName, String.toList_ofList]
    exact h

namespace Parameters

/-- A character that is its own lower case spells no other letter. -/
theorem ne_of_spells {mode : SeparatorCase} {letter c d : Char} (hlower : d.toLower = d)
    (hne : letter ≠ d) (h : spells mode letter c = true) : c ≠ d := by
  rintro rfl
  simp [spells, hlower, Ne.symm hne] at h

theorem afterSeparator?_crlf (mode : SeparatorCase) (text : List Char) :
    afterSeparator? mode (crlf text) = (afterSeparator? mode text).map crlf := by
  apply Option.ext
  intro rest
  rw [Option.map_eq_some_iff, afterSeparator?_eq_some]
  constructor
  · rintro ⟨a, s, htext, ha, hs⟩
    -- none of the four characters is a carriage return, so they stand in the text itself
    have hareturn : a ≠ '\r' := ne_of_spells (by decide) (by decide) ha
    have hsreturn : s ≠ '\r' := ne_of_spells (by decide) (by decide) hs
    obtain ⟨text₁, rfl, h₁⟩ := Text.of_crlf_eq_cons (by decide) htext
    obtain ⟨text₂, rfl, h₂⟩ := Text.of_crlf_eq_cons hareturn h₁.symm
    obtain ⟨text₃, rfl, h₃⟩ := Text.of_crlf_eq_cons hsreturn h₂.symm
    obtain ⟨text₄, rfl, h₄⟩ := Text.of_crlf_eq_cons (by decide) h₃.symm
    exact ⟨text₄, afterSeparator?_eq_some.mpr ⟨a, s, rfl, ha, hs⟩, h₄.symm⟩
  · rintro ⟨rest', h, rfl⟩
    obtain ⟨a, s, rfl, ha, hs⟩ := afterSeparator?_eq_some.mp h
    have habreak : a ≠ '\n' := ne_of_spells (by decide) (by decide) ha
    have hsbreak : s ≠ '\n' := ne_of_spells (by decide) (by decide) hs
    refine ⟨a, s, ?_, ha, hs⟩
    rw [Text.crlf_cons (by decide), Text.crlf_cons habreak, Text.crlf_cons hsbreak,
      Text.crlf_cons (by decide)]

theorem cutAtSeparator?_crlf (mode : SeparatorCase) (text : List Char) :
    cutAtSeparator? mode (crlf text) =
      (cutAtSeparator? mode text).map (fun cut => (crlf cut.1, crlf cut.2)) := by
  induction text with
  | nil => rfl
  | cons c rest ih =>
    by_cases hc : c = '\n'
    · subst hc
      rw [Text.crlf_cons_break, cutAtSeparator?_of_none (afterSeparator?_cons_of_ne (by decide) ..),
        cutAtSeparator?_of_none (afterSeparator?_cons_of_ne (by decide) ..), ih,
        cutAtSeparator?_of_none (afterSeparator?_cons_of_ne (by decide) ..), Option.map_map,
        Option.map_map, Option.map_map]
      rfl
    · have hafter := afterSeparator?_crlf mode (c :: rest)
      rw [Text.crlf_cons hc] at hafter ⊢
      cases h : afterSeparator? mode (c :: rest) with
      | some after =>
        rw [h] at hafter
        rw [cutAtSeparator?_of_some hafter, cutAtSeparator?_of_some h]
        rfl
      | none =>
        rw [h] at hafter
        rw [cutAtSeparator?_of_none hafter, cutAtSeparator?_of_none h, ih, Option.map_map,
          Option.map_map]
        congr 1
        funext cut
        simp [Text.crlf_cons hc]

theorem declaredType?_crlf (mode : SeparatorCase) (token : List Char) :
    declaredType? mode (crlf token) =
      (declaredType? mode token).map (fun cut => (crlf cut.1, crlf cut.2)) := by
  rw [declaredType?, declaredType?, cutAtSeparator?_crlf]
  rcases cutAtSeparator? mode token with - | ⟨before, after⟩
  · rfl
  · cases before with
    | nil => rfl
    | cons c before =>
      have hne : ¬ crlf (c :: before) = [] := by simp
      simp [Option.filter, hne]

theorem inferredType_crlf (fallback : TypeFallback) (token : List Char) :
    inferredType fallback (crlf token) = (inferredType fallback token).map ParamType.crlf := by
  have hhead : (crlf token).head?.bind ParamType.ofInitial? =
      token.head?.bind ParamType.ofInitial? := by
    cases token with
    | nil => rfl
    | cons c rest =>
      by_cases hc : c = '\n'
      · subst hc
        rfl
      · rw [Text.crlf_cons hc]
        rfl
  have hinitial : ∀ c t, ParamType.ofInitial? c = some t → t.crlf = t := by
    intro c t h
    unfold ParamType.ofInitial? at h
    split at h <;> cases h <;> rfl
  unfold inferredType
  rw [hhead]
  cases h : token.head?.bind ParamType.ofInitial? with
  | none => cases fallback <;> rfl
  | some t =>
    obtain ⟨c, -, hc⟩ := Option.bind_eq_some_iff.mp h
    rw [Option.map_some, hinitial c t hc]

theorem parameter_crlf (options : TypingOptions) (token : List Char) :
    parameter options (crlf token) = (parameter options token).crlf := by
  rw [parameter, parameter, declaredType?_crlf]
  rcases declaredType? options.separator token with - | ⟨name, type⟩
  · simp [Parameter.crlf, inferredType_crlf]
  · simp [Parameter.crlf, Text.trim_crlf, ParamType.ofName_crlf]

theorem tokens_crlf (list : List Char) : tokens (crlf list) = (tokens list).map crlf := by
  have hstrip : Text.stripWhile isNoise ∘ crlf = crlf ∘ Text.stripWhile isNoise :=
    funext (Text.stripWhile_crlf (by decide))
  have hkept : (fun token => !token.isEmpty) ∘ crlf = (fun token => !token.isEmpty) := by
    funext token
    rw [Function.comp_apply, Bool.eq_iff_iff]
    simp
  rw [tokens, tokens, Text.splitOn_crlf (by decide) (by decide), List.map_map, hstrip,
    ← List.map_map, List.filter_map, hkept]

/-- The parameters in a list after carriage returns have been put in. -/
theorem parse_crlf (options : TypingOptions) (list : List Char) :
    parse options (crlf list) = (parse options list).map Parameter.crlf := by
  rw [parse, parse, tokens_crlf, List.map_map, List.map_map]
  apply List.map_congr_left
  intro token _
  exact parameter_crlf options token

end Parameters

/-! ## Headers -/

/-- A header after carriage returns have been put into the text. -/
def Header.crlf (text : List Char) (header : Header) : Header :=
  { header with
    parameters := String.ofList (Text.crlf header.parameters.toList)
    offset := crlfOffset text header.offset
    stop := crlfOffset text header.stop }

theorem crlf_indent {text rest : List Char} {line : HeaderLine}
    (h : headerLine? text = some (line, rest)) : crlf line.indent = line.indent := by
  apply Text.crlf_of_notMem
  intro hmem
  rw [(headerLine?_eq_some h).1] at hmem
  have hgap := List.mem_takeWhile_imp hmem
  rw [isGap_break] at hgap
  cases hgap

theorem header_crlf {before rest : List Char} {line : HeaderLine}
    (h : headerLine? (line.text ++ rest) = some (line, rest)) :
    line.crlf.header (Text.byteLength (crlf before)) =
      (line.header (Text.byteLength before)).crlf (before ++ line.text ++ rest) := by
  have htext : line.crlf.text = crlf line.text := headerLine?_crlf.taken_eq h
  have hsplit : before ++ line.text ++ rest = (before ++ line.indent) ++
      (line.qualifier.elim [] Qualifier.text ++ line.signature.text ++ rest) := by
    simp [HeaderLine.text, HeaderLine.head]
  have hoffset : crlfOffset (before ++ line.text ++ rest)
      (Text.byteLength before + Text.byteLength line.indent) =
      Text.byteLength (crlf before) + Text.byteLength line.indent := by
    rw [hsplit, ← Text.byteLength_append, Text.crlfOffset_byteLength, Text.crlf_append,
      crlf_indent h, Text.byteLength_append]
  have hstop : crlfOffset (before ++ line.text ++ rest)
      (Text.byteLength before + Text.byteLength line.text) =
      Text.byteLength (crlf before) + Text.byteLength (crlf line.text) := by
    rw [← Text.byteLength_append, Text.crlfOffset_byteLength, Text.crlf_append,
      Text.byteLength_append]
  simp only [HeaderLine.header, Header.crlf, hoffset, hstop, htext, String.toList_ofList]
  rfl

theorem headerScan_crlf (text : List Char) :
    headerScan (crlf text) = (headerScan text).map (Header.crlf text) := by
  have hscan : HeaderLine.reader.scan 0 true 0 (crlf text) =
      (HeaderLine.reader.scan 0 true 0 text).map (fun found =>
        (crlfOffset text found.1, found.2.crlf)) := by
    have hstart : crlfOffset text 0 = 0 := by rw [crlfOffset, Text.breaksBefore_zero]
    have hcrlf := LineReader.scan_crlf headerLine?_crlf 0 true [] text
    rw [List.nil_append, hstart] at hcrlf
    exact hcrlf
  rw [headerScan, headerScan, hscan, List.map_map, List.map_map]
  apply List.map_congr_left
  intro found hfound
  obtain ⟨before, rest, htext, hoffset, hread⟩ := HeaderLine.reader.mem_scan hfound
  rw [Nat.zero_add] at hoffset
  have hplace : crlfOffset text found.1 = Text.byteLength (crlf before) := by
    rw [htext, hoffset, List.append_assoc, Text.crlfOffset_byteLength]
  simp only [Function.comp_apply]
  rw [hplace, header_crlf hread, hoffset, htext]
  rfl

theorem headers_crlf (text : List Char) :
    Extractor.headers (Rules.compile {}) (crlf text) =
      (Extractor.headers (Rules.compile {}) text).map (fun found =>
        (found.1, found.2.crlf text)) := by
  rw [headers_default, headers_default, headerScan_crlf, List.map_map, List.map_map]
  rfl

/-- A header starts between two characters of the text. -/
theorem offset_split {text : List Char} {found : FunctionRule × Header}
    (h : found ∈ Extractor.headers (Rules.compile {}) text) :
    ∃ before rest, text = before ++ rest ∧ found.2.offset = Text.byteLength before := by
  rw [headers_default] at h
  obtain ⟨header, hheader, rfl⟩ := List.mem_map.mp h
  obtain ⟨before, line, rest, htext, -, -, rfl⟩ := mem_headerScan hheader
  refine ⟨before ++ line.indent,
    line.qualifier.elim [] Qualifier.text ++ line.signature.text ++ rest, ?_,
    (Text.byteLength_append ..).symm⟩
  rw [htext, HeaderLine.text, HeaderLine.head]
  simp only [List.append_assoc]

/-! ## Variables -/

theorem variableScan_crlf (text : List Char) (start : Nat) :
    variableScan (crlf text) (crlfOffset text start) = variableScan text start := by
  have hscan := LineReader.scan_crlf variableLine?_crlf start true [] text
  rw [List.nil_append] at hscan
  rw [variableScan, variableScan]
  have hmap := congrArg (List.map (fun found => found.2.variable)) hscan
  rw [List.map_map] at hmap
  exact hmap

theorem text_crlf_of_firstReturn? {text : List Char} {start offset : Nat} {line : ReturnLine}
    (h : firstReturn? text start = some (offset, line)) : line.crlf.text = crlf line.text := by
  obtain ⟨_, _, -, -, hread, -⟩ := firstReturn?_eq_some h
  have hword : line.crlf.word = crlf line.word := returnLine?_crlf.taken_eq hread
  rw [ReturnLine.text, ReturnLine.text, Text.crlf_append, ← hword]
  rfl

/-- Both texts are visible up to the end of the return line, and show the same variables. -/
theorem scanVariables_crlf {text : List Char} {start offset : Nat} {line : ReturnLine}
    (h : firstReturn? text start = some (offset, line)) :
    scanVariables variablePattern (crlf text) (crlfOffset text start)
        (crlfOffset text offset + Text.byteLength line.crlf.text) =
      scanVariables variablePattern text start (offset + Text.byteLength line.text) := by
  have hline := text_crlf_of_firstReturn? h
  obtain ⟨before, rest, rfl, rfl, hstart⟩ := firstReturn?_split h
  have hplace : crlfOffset (before ++ line.text ++ rest) (Text.byteLength before) =
      Text.byteLength (crlf before) := by
    rw [List.append_assoc, Text.crlfOffset_byteLength]
  have hbody : crlfOffset (before ++ line.text ++ rest) start =
      crlfOffset (before ++ line.text) start := by
    apply Text.crlfOffset_append_of_le
    rw [Text.byteLength_append]
    omega
  rw [scanVariables_variablePattern, scanVariables_variablePattern, hplace, hline, hbody,
    Text.crlf_append (before ++ line.text), ← Text.byteLength_append, ← Text.byteLength_append,
    ← Text.crlf_append, Text.takeBytes_byteLength, Text.takeBytes_byteLength, variableScan_crlf]

/-- Offsets keep their order, so the same declarations lie between two of them. -/
theorem declaredBetween_crlf (text : List Char) (found : List (FunctionRule × Header))
    (offset stop : Nat) :
    DeclaredBetween (found.map (fun other => (other.1, other.2.crlf text)))
        (crlfOffset text offset) (crlfOffset text stop) ↔ DeclaredBetween found offset stop := by
  constructor
  · rintro ⟨other, hother, hlt, hle⟩
    obtain ⟨origin, horigin, rfl⟩ := List.mem_map.mp hother
    exact ⟨origin, horigin, (Text.crlfOffset_lt_iff text).mp hlt,
      (Text.crlfOffset_le_iff text).mp hle⟩
  · rintro ⟨other, hother, hlt, hle⟩
    exact ⟨_, List.mem_map.mpr ⟨other, hother, rfl⟩, (Text.crlfOffset_lt_iff text).mpr hlt,
      (Text.crlfOffset_le_iff text).mpr hle⟩

/-- The variables that a header owns are the same after carriage returns have been put in. -/
theorem ownVariables_crlf (text : List Char) (found : List (FunctionRule × Header))
    (header : Header) :
    ownVariables variablePattern (crlf text)
        (found.map (fun other => (other.1, other.2.crlf text))) (header.crlf text) =
      ownVariables variablePattern text found header := by
  have hfirst : firstReturn? (crlf text) (header.crlf text).stop =
      (firstReturn? text header.stop).map (fun found =>
        (crlfOffset text found.1, found.2.crlf)) := firstReturn?_crlf text header.stop
  have hoffset : (header.crlf text).offset = crlfOffset text header.offset := rfl
  have hstop : (header.crlf text).stop = crlfOffset text header.stop := rfl
  rw [ownVariables, ownVariables, hfirst]
  rcases hreturn : firstReturn? text header.stop with - | ⟨offset, line⟩
  · rfl
  · simp only [Option.map_some, hoffset, hstop, declaredBetween_crlf, scanVariables_crlf hreturn]

/-! ## Functions -/

/-- A function after carriage returns have been put into the text: it stands later by the line
    feeds before it, and the texts of its parameters hold the carriage returns. -/
def FunctionSymbol.crlf (text : List Char) (symbol : FunctionSymbol) : FunctionSymbol :=
  { symbol with
    id := identity symbol.rule symbol.name (symbol.offset + Text.breaksBefore symbol.offset text)
    parameters := symbol.parameters.map Parameter.crlf
    offset := symbol.offset + Text.breaksBefore symbol.offset text }

/-- **Line endings do not matter.** A text with a carriage return before every line feed has the
    same functions, and a parameter without a line feed is the same. -/
theorem run_crlf (options : TypingOptions) (text : List Char) :
    (defaultExtractor options).run (crlf text) =
        ((defaultExtractor options).run text).map (FunctionSymbol.crlf text) ∧
      ∀ p : Parameter, '\n' ∉ p.name.toList → (∀ t ∈ p.type, '\n' ∉ t.name.toList) →
        p.crlf = p := by
  refine ⟨?_, fun p hname htype => Parameter.crlf_of_notMem hname htype⟩
  have hheaders : Extractor.headers (defaultExtractor options).rules (crlf text) =
      (Extractor.headers (defaultExtractor options).rules text).map (fun found =>
        (found.1, found.2.crlf text)) := headers_crlf text
  have hvars : (defaultExtractor options).rules.vars = some variablePattern := Rules.vars_default
  rw [run_eq_map _ hvars, run_eq_map _ hvars, hheaders, List.map_map, List.map_map]
  apply List.map_congr_left
  intro found hfound
  have hline : Text.lineOf (crlf text) (crlfOffset text found.2.offset) =
      Text.lineOf text found.2.offset := by
    obtain ⟨before, rest, rfl, hoffset⟩ := offset_split hfound
    rw [hoffset, Text.crlfOffset_byteLength, Text.lineOf_crlf]
  have hown := ownVariables_crlf text (Extractor.headers (defaultExtractor options).rules text)
    found.2
  simp only [Function.comp_apply, Extractor.symbolOf, FunctionSymbol.crlf, hheaders, hown]
  simp only [Header.crlf, hline, String.toList_ofList, Parameters.parse_crlf]
  rfl

end ProgramOutline
