import ProgramOutline.Proofs.Separation

/-!
# Qualifiers and variables

`Static` is a qualifier of headers and a scope of variables. The default variable rule reads
`Static Function` at the start of a line as a variable with the name `Function`, whether a header
follows or not; what keeps it from doing so in a header is only that bodies lie apart from headers.
So a variable like this comes from a line that the default function rule does not read as a header.

Results:
* `mem_reported_line`: a variable is declared where no header can be read.
* `run_beside_headers`: this for all functions of a text, and what follows for `Static Function`.
-/

namespace ProgramOutline

open Regex Grammar Unicode

/-! ## Bodies end with a line -/

/-- A return line ends at the end of the text or of a line. -/
theorem firstReturn?_visible {text : List Char} {start offset : Nat} {line : ReturnLine}
    (h : firstReturn? text start = some (offset, line)) :
    ∃ visible hidden, text = visible ++ hidden ∧
      offset + Text.byteLength line.text = Text.byteLength visible ∧
      (hidden = [] ∨ EndsLine visible) := by
  obtain ⟨before, rest, htext, rfl, hread, -⟩ := firstReturn?_eq_some h
  have hline := text_eq_lineTail hread
  refine ⟨before ++ line.text, afterLine (line.word ++ rest), ?_,
    (Text.byteLength_append ..).symm, ?_⟩
  · rw [htext, hline, List.append_assoc, List.append_assoc, lineTail_append_afterLine]
  · refine (lineTail_ends _).imp id (fun hends => ?_)
    rw [← hline] at hends
    rw [EndsLine, List.getLast?_append, hends, Option.some_or]

/-- A body ends at the end of the text or of a line. -/
theorem bodyOf?_visible {text : List Char} {header : Header} (hheader : header ∈ headerScan text)
    {body : BodySpan} (h : body ∈ bodyOf? text header) :
    ∃ visible hidden, text = visible ++ hidden ∧ body.stop = Text.byteLength visible ∧
      (hidden = [] ∨ EndsLine visible) := by
  obtain ⟨offset, line, hfirst, -, rfl⟩ := bodyOf?_eq_some hheader h
  exact firstReturn?_visible hfirst

/-! ## Variables and headers -/

/-- The match stands at the start of a line where a variable line, but no header can be read, and it
    declares the variable of that line. -/
def DeclaredBesideHeaders (text : List Char) (entry : Match × Variable) : Prop :=
  ∃ before rest line after, text = before ++ rest ∧ (before = [] ∨ EndsLine before) ∧
    headerLine? rest = none ∧ variableLine? rest = some (line, after) ∧
    entry = (line.toMatch (Text.byteLength before), line.variable)

/-- No header can be read where a variable that starts a line is declared: the match of the variable
    would not be apart from the header found there. -/
theorem headerLine?_eq_none {text before rest : List Char} (htext : text = before ++ rest)
    (hline : before = [] ∨ EndsLine before) {header : Header} (hheader : header ∈ foundHeaders text)
    {entry : Match × Variable} (hentry : entry ∈ reported text header)
    (hstart : entry.1.span.start = Text.byteLength before) : headerLine? rest = none := by
  by_contra hsome
  obtain ⟨⟨item, after⟩, hread⟩ := Option.ne_none_iff_exists'.mp hsome
  obtain ⟨found, hfound, hle, hlt⟩ := HeaderLine.reader.exists_covering htext
    (hline.imp (⟨rfl, ·⟩) id) (Nat.zero_le _) hread
  have hmatch : found.2.toMatch found.1 ∈ headerPattern.findAll text := by
    rw [findAll_headerPattern]
    exact List.mem_map_of_mem hfound
  have hapart := reported_apart_header text hheader hentry hmatch
  have hne : entry.1.span.start < entry.1.span.stop := by
    obtain ⟨-, -, -, hne, -⟩ := mem_reported (foundHeaders_eq text ▸ hheader) hentry
    exact hne
  rw [HeaderLine.spans] at hapart
  unfold Span.Apart at hapart
  dsimp only at hapart
  omega

/-- Every variable is declared at the start of a line where no header can be read. -/
theorem mem_reported_line {text : List Char} {header : Header}
    (hheader : header ∈ foundHeaders text) {entry : Match × Variable}
    (h : entry ∈ reported text header) : DeclaredBesideHeaders text entry := by
  have hscanned : header ∈ headerScan text := foundHeaders_eq text ▸ hheader
  obtain ⟨body, hbody, -⟩ := mem_reported hscanned h
  obtain ⟨visible, hidden, htext, hstop, hends⟩ := bodyOf?_visible hscanned hbody
  have hmem := h
  rw [reported_eq hbody, hstop, htext, Text.takeBytes_byteLength] at hmem
  obtain ⟨⟨offset, line⟩, hfound, hentry⟩ := List.mem_map.mp hmem
  obtain ⟨before, rest, hvisible, rfl, hread, -, hstart⟩ :=
    VariableLine.reader.mem_scan_text hfound
  change variableLine? (line.text ++ rest) = some (line, rest) at hread
  change visible = before ++ line.text ++ rest at hvisible
  have hsplit : text = before ++ (line.text ++ rest ++ hidden) := by
    rw [htext, hvisible]
    simp only [List.append_assoc]
  -- the body ends where a line does, so what follows it does not change the variable line
  have hfull : variableLine? (line.text ++ rest ++ hidden) = some (line, rest ++ hidden) := by
    rcases hends with rfl | hends
    · simpa using hread
    · have hne : line.text ++ rest ≠ [] := by
        intro hnil
        rw [hnil] at hread
        cases VariableLine.reader.read?_nil.symm.trans hread
      have hsuffix : EndsLine (line.text ++ rest) :=
        hends.of_suffix ⟨before, by rw [hvisible, List.append_assoc]⟩ hne
      rw [variableLine?_append hsuffix, hread]
      rfl
  refine ⟨before, line.text ++ rest ++ hidden, line, rest ++ hidden, hsplit, hstart, ?_, hfull,
    hentry.symm⟩
  exact headerLine?_eq_none hsplit hstart hheader h (by rw [← hentry]; rfl)

/-! ## The variable `Function` of the scope `Static` -/

/-- Two texts differ at most in case. -/
def EqualUpToCase (a b : List Char) : Prop := List.Forall₂ (fun x y => sameCase x y = true) a b

/-- The variable reads like the qualifier `Static` before the keyword of a header. -/
def Variable.IsQualifier (v : Variable) : Prop :=
  EqualUpToCase "Static".toList v.scope.toList ∧ EqualUpToCase "Function".toList v.name.toList

instance (a b : List Char) : Decidable (EqualUpToCase a b) :=
  inferInstanceAs (Decidable (List.Forall₂ (fun x y => sameCase x y = true) a b))

instance (v : Variable) : Decidable v.IsQualifier :=
  inferInstanceAs (Decidable (EqualUpToCase "Static".toList v.scope.toList ∧
    EqualUpToCase "Function".toList v.name.toList))

/-- At the start of a line a variable that reads like a qualifier stands in a header only. -/
def QualifiersInHeaders (text : List Char) : Prop :=
  ∀ before rest line after, text = before ++ rest → before = [] ∨ EndsLine before →
    variableLine? rest = some (line, after) → line.variable.IsQualifier →
    (headerLine? rest).isSome

/-- **No qualifier of a header is a variable.** The default rules report variables only from lines
    at the start of which no header can be read. Hence a variable `Function` of the scope `Static`,
    in any case, comes from such a line, and in a text where `Static Function` starts only lines
    that are headers no function has a variable like that. -/
theorem run_beside_headers (options : TypingOptions) (text : List Char) :
    ((defaultExtractor options).run text).map (·.vars) =
        (foundHeaders text).map (fun a => (reported text a).map (·.2)) ∧
      (∀ a ∈ foundHeaders text, ∀ entry ∈ reported text a, DeclaredBesideHeaders text entry) ∧
      (QualifiersInHeaders text → ∀ symbol ∈ (defaultExtractor options).run text,
        ∀ v ∈ symbol.vars, ¬ v.IsQualifier) := by
  refine ⟨run_vars options text, fun a ha entry hentry => mem_reported_line ha hentry, ?_⟩
  intro hheaders symbol hsymbol v hv hqualifier
  have hvars : symbol.vars ∈ ((defaultExtractor options).run text).map (·.vars) :=
    List.mem_map_of_mem hsymbol
  rw [run_vars] at hvars
  obtain ⟨header, hheader, hvars⟩ := List.mem_map.mp hvars
  rw [← hvars] at hv
  obtain ⟨entry, hentry, rfl⟩ := List.mem_map.mp hv
  obtain ⟨before, rest, line, after, htext, hline, hnone, hread, rfl⟩ :=
    mem_reported_line hheader hentry
  have hsome := hheaders before rest line after htext hline hread hqualifier
  rw [hnone] at hsome
  cases hsome

/-- A function that declares a static variable with the name `Function`. -/
def bareQualifier : List Char := "Function A()\nStatic Function := 1\nReturn\n".toList

theorem run_bareQualifier :
    ∃ symbol ∈ (defaultExtractor {}).run bareQualifier, ∃ v ∈ symbol.vars, v.IsQualifier := by
  have hvars : ((defaultExtractor {}).run bareQualifier).map (·.vars) =
      [[⟨"Static", "Function"⟩]] := by
    rw [defaultExtractor, Rules.compile_default]
    decide +kernel
  have hmem : [(⟨"Static", "Function"⟩ : Variable)] ∈
      ((defaultExtractor {}).run bareQualifier).map (·.vars) := by
    rw [hvars]
    exact List.mem_singleton_self _
  obtain ⟨symbol, hsymbol, hone⟩ := List.mem_map.mp hmem
  have hv : ⟨"Static", "Function"⟩ ∈ symbol.vars := by
    rw [hone]
    exact List.mem_singleton_self _
  exact ⟨symbol, hsymbol, _, hv, by decide⟩

end ProgramOutline
