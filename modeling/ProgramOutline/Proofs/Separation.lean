import ProgramOutline.Proofs.Concatenation

/-!
# Bodies and headers keep apart

With the default rules a body ends before the next declaration. The search for its end compares only
the start of the return line with that declaration; but the return line is the whole of its line and
a header starts a line, so the return line ends before the header starts, indent included.

Results:
* `return_before_header`: a return line that does not start after the indent of a header ends before
  the header.
* `body_stop_le`: a body ends before every later header line.
* `mem_reported`: the matches of the variables of a function lie in its body and start lines.
* `bodies_apart`: headers, bodies and variables of different functions share no character, and no
  line declares a variable of two functions.
-/

namespace ProgramOutline

open Regex Grammar

/-! ## Stretches of text -/

/-- Two stretches of a text have no character in common. -/
def Regex.Span.Apart (a b : Span) : Prop := a.stop ≤ b.start ∨ b.stop ≤ a.start

theorem Regex.Span.Apart.mono {a a' b b' : Span} (h : a.Apart b)
    (ha : a.start ≤ a'.start ∧ a'.stop ≤ a.stop) (hb : b.start ≤ b'.start ∧ b'.stop ≤ b.stop) :
    a'.Apart b' := by
  unfold Apart at *
  omega

/-- The stretch of a header. -/
def Header.span (header : Header) : Span := ⟨header.offset, header.stop⟩

/-- The stretch of a body, from the end of the header on. -/
def BodySpan.inner (body : BodySpan) : Span := ⟨body.bodyStart, body.stop⟩

/-! ## Return lines and header lines -/

/-- A return line is the whole of its line. -/
theorem text_eq_lineTail {text rest : List Char} {line : ReturnLine}
    (h : returnLine? text = some (line, rest)) : line.text = lineTail text := by
  obtain ⟨hword, -, htail⟩ := returnLine?_eq_some h
  have hpos : ∀ c ∈ line.word, (c != '\n') = true := by
    intro c hc
    simpa using ne_break_of_isBlank (isBlank_of_word? returnWord_letters hword hc)
  rw [word?_split hword, ReturnLine.text, htail, lineTail, lineTail,
    List.takeWhile_append_of_pos hpos, List.dropWhile_append_of_pos hpos, List.append_assoc]

theorem byteLength_lineTail_le (text : List Char) :
    Text.byteLength (lineTail text) ≤ Text.byteLength text := by
  have hsplit := congrArg Text.byteLength (lineTail_append_afterLine text)
  rw [Text.byteLength_append] at hsplit
  omega

/-- A return line ends where the next line starts or earlier. -/
theorem byteLength_text_le {y u rest : List Char} {line : ReturnLine}
    (h : returnLine? (y ++ u) = some (line, rest)) (hend : EndsLine y) :
    Text.byteLength line.text ≤ Text.byteLength y := by
  rw [text_eq_lineTail h, lineTail_append hend]
  exact byteLength_lineTail_le y

/-- No return line starts where an indented header line does. -/
theorem indent_eq_nil {text rest rest' : List Char} {line : ReturnLine} {header : HeaderLine}
    (hreturn : returnLine? text = some (line, rest))
    (hheader : headerLine? text = some (header, rest')) : header.indent = [] := by
  obtain ⟨hword, -⟩ := returnLine?_eq_some hreturn
  have hne : line.word ≠ [] := ne_nil_of_word? (by decide : returnWord ≠ []) hword
  obtain ⟨c, word, hcons⟩ := List.exists_cons_of_ne_nil hne
  have hblank : Text.isBlank c = false :=
    isBlank_of_word? returnWord_letters hword (by simp [hcons])
  have hgap : ¬ isGap c = true := by
    intro hc
    rw [isBlank_of_isGap hc] at hblank
    cases hblank
  rw [(headerLine?_eq_some hheader).1, word?_split hword, hcons, List.cons_append,
    List.takeWhile_cons_of_neg hgap]

/-- What a header line starts with before the end of its indent are gaps. -/
theorem isGap_of_lt_indent {z s rest : List Char} {header : HeaderLine}
    (h : headerLine? (z ++ s) = some (header, rest))
    (hlt : Text.byteLength z < Text.byteLength header.indent) : ∀ c ∈ z, isGap c = true := by
  have hindent := (headerLine?_eq_some h).1
  have hsplit : header.indent ++ (z ++ s).dropWhile isGap = z ++ s := by
    rw [hindent, List.takeWhile_append_dropWhile]
  rcases List.append_eq_append_iff.mp hsplit with ⟨w, rfl, -⟩ | ⟨w, hw, -⟩
  · rw [Text.byteLength_append] at hlt
    omega
  · intro c hc
    have hmem : c ∈ header.indent := by
      rw [hw]
      exact List.mem_append_left w hc
    rw [hindent] at hmem
    exact List.mem_takeWhile_imp hmem

/-- A return line that does not start after the indent of a header line ends before that line. -/
theorem return_before_header {text : List Char} {start r p : Nat} {line : ReturnLine}
    {header : HeaderLine} (hreturn : (r, line) ∈ ReturnLine.reader.scan start true 0 text)
    (hheader : (p, header) ∈ HeaderLine.reader.scan 0 true 0 text)
    (hlt : r < p + Text.byteLength header.indent) : r + Text.byteLength line.text ≤ p := by
  obtain ⟨a, after, htext, rfl, hread, -, hline⟩ := ReturnLine.reader.mem_scan_text hreturn
  obtain ⟨b, after', htext', rfl, hread', -, hline'⟩ := HeaderLine.reader.mem_scan_text hheader
  change returnLine? (line.word ++ after) = some (line, after) at hread
  change headerLine? (header.text ++ after') = some (header, after') at hread'
  have heq : a ++ (line.word ++ after) = b ++ (header.text ++ after') := by
    rw [← List.append_assoc, ← List.append_assoc]
    exact htext.symm.trans htext'
  rcases List.append_eq_append_iff.mp heq with ⟨y, rfl, hy⟩ | ⟨z, rfl, hz⟩
  · rcases List.eq_nil_or_concat y with rfl | ⟨y', d, rfl⟩
    · rw [List.nil_append] at hy
      rw [indent_eq_nil (hy ▸ hread) hread'] at hlt
      simp at hlt
    · -- the header line starts on a later line than the return line
      have hend : EndsLine (y'.concat d) := by
        rcases hline' with hnil | hline'
        · simp at hnil
        · simpa [EndsLine, List.getLast?_append] using hline'
      rw [Text.byteLength_append]
      exact Nat.add_le_add_left (byteLength_text_le (hy ▸ hread) hend) _
  · rcases List.eq_nil_or_concat z with rfl | ⟨z', d, rfl⟩
    · rw [List.nil_append] at hz
      rw [indent_eq_nil (hz ▸ hread) hread'] at hlt
      simp at hlt
    · -- the return line would start inside of the indent, after a gap
      rw [Text.byteLength_append] at hlt
      have hd : isGap d = true := isGap_of_lt_indent (hz ▸ hread') (by omega) d (by simp)
      rcases hline with hnil | hline
      · simp at hnil
      · obtain rfl : d = '\n' := by simpa [List.getLast?_append] using hline
        rw [isGap_break] at hd
        cases hd

/-! ## Bodies -/

/-- The body of a header in a text with the default rules: it must end before the next
    declaration. -/
def bodyOf? (text : List Char) (header : Header) : Option BodySpan :=
  let found := Extractor.headers (Rules.compile {}) text
  findBody text header.offset header.stop
    (Ascending.above? (Extractor.declarations found) header.offset)

/-- The header lines of a text with their offsets. -/
def headerLines (text : List Char) : List (Nat × HeaderLine) :=
  HeaderLine.reader.scan 0 true 0 text

theorem headerScan_eq_map (text : List Char) :
    headerScan text = (headerLines text).map (fun found => found.2.header found.1) := rfl

theorem bodyOf?_eq_some {text : List Char} {header : Header} (hheader : header ∈ headerScan text)
    {body : BodySpan} (h : body ∈ bodyOf? text header) :
    ∃ offset line, firstReturn? text header.stop = some (offset, line) ∧
      (∀ other ∈ headerScan text, header.offset < other.offset → offset < other.offset) ∧
      body = ⟨header.offset, header.stop, offset + Text.byteLength line.text⟩ := by
  rw [← scanHeaders_headerPattern] at hheader
  obtain ⟨hle, hlength⟩ := header_bounds hheader
  unfold bodyOf? at h
  rw [Option.mem_def, findBody_eq hle hlength] at h
  rcases hfirst : firstReturn? text header.stop with - | ⟨offset, line⟩
  · rw [hfirst] at h
    cases h
  · simp only [hfirst, any_above?_declarations, Option.ite_none_left_eq_some,
      Option.some.injEq] at h
    obtain ⟨hbetween, rfl⟩ := h
    refine ⟨offset, line, rfl, fun other hother hlt => ?_, rfl⟩
    by_contra hnot
    refine hbetween ⟨(.generic, other), ?_, hlt, not_lt.mp hnot⟩
    rw [headers_default]
    exact List.mem_map.mpr ⟨other, hother, rfl⟩

/-- A header is not empty: the name stands in it. -/
theorem indent_lt_text (line : HeaderLine) :
    Text.byteLength line.indent < Text.byteLength line.text := by
  rw [HeaderLine.text, HeaderLine.head, Signature.text]
  have hparen : 0 < '('.utf8Size := Char.utf8Size_pos '('
  simp only [Text.byteLength_append, Text.byteLength_cons]
  omega

/-- A body starts where its header ends, and it ends in the text. -/
theorem bodyOf?_bounds {text : List Char} {header : Header} (hheader : header ∈ headerScan text)
    {body : BodySpan} (h : body ∈ bodyOf? text header) :
    body.bodyStart = header.stop ∧ header.stop ≤ body.stop ∧
      ∃ visible rest, text = visible ++ rest ∧ body.stop = Text.byteLength visible := by
  obtain ⟨offset, line, hfirst, -, rfl⟩ := bodyOf?_eq_some hheader h
  obtain ⟨before, rest, htext, rfl, hstart⟩ := firstReturn?_split hfirst
  refine ⟨rfl, le_trans hstart (Nat.le_add_right ..), before ++ line.text, rest, htext, ?_⟩
  rw [Text.byteLength_append]

/-- A body ends before every later header line. -/
theorem body_stop_le {text : List Char} {a b : Nat × HeaderLine} (ha : a ∈ headerLines text)
    (hb : b ∈ headerLines text) (hab : a.1 + Text.byteLength a.2.text ≤ b.1) {body : BodySpan}
    (h : body ∈ bodyOf? text (a.2.header a.1)) : body.stop ≤ b.1 := by
  have hmem : ∀ found ∈ headerLines text, found.2.header found.1 ∈ headerScan text :=
    fun found hfound => List.mem_map.mpr ⟨found, hfound, rfl⟩
  obtain ⟨offset, line, hfirst, hnext, rfl⟩ := bodyOf?_eq_some (hmem a ha) h
  have hlt : offset < b.1 + Text.byteLength b.2.indent := by
    apply hnext _ (hmem b hb)
    have hne := indent_lt_text a.2
    change a.1 + Text.byteLength a.2.indent < b.1 + Text.byteLength b.2.indent
    omega
  exact return_before_header (List.mem_of_head? hfirst) hb hlt

/-! ## Variables -/

/-- The variables that a function with this header reports, each with the match that declares it. -/
def reported (text : List Char) (header : Header) : List (Match × Variable) :=
  match bodyOf? text header with
  | none => []
  | some body =>
    let visible := Text.takeBytes body.stop text
    (variablePattern.declarations visible body.bodyStart).filterMap (fun m =>
      (Variable.ofMatch? visible m).map (fun v => (m, v)))

theorem variablesOf_eq_reported (text : List Char) (header : Header) :
    Extractor.variablesOf (Rules.compile {}) text
        (Extractor.declarations (Extractor.headers (Rules.compile {}) text)) header =
      (reported text header).map (·.2) := by
  have hbody : findBody text header.offset header.stop
      (Ascending.above? (Extractor.declarations (Extractor.headers (Rules.compile {}) text))
        header.offset) = bodyOf? text header := rfl
  rw [Extractor.variablesOf, Rules.vars_default, reported]
  dsimp only
  rw [hbody]
  cases bodyOf? text header with
  | none => rfl
  | some body =>
    dsimp only
    rw [scanVariables, List.map_filterMap]
    simp

/-- The variables that a header reports are those of the variable lines in its body. -/
theorem reported_eq {text : List Char} {header : Header} {body : BodySpan}
    (h : bodyOf? text header = some body) :
    reported text header =
      (VariableLine.reader.scan body.bodyStart true 0 (Text.takeBytes body.stop text)).map
        (fun found => (found.2.toMatch found.1, found.2.variable)) := by
  rw [reported, h]
  dsimp only
  rw [declarations_variablePattern, List.filterMap_map]
  apply VariableLine.reader.filterMap_scan
  intro before line rest htext hread
  have hvariable : Variable.ofMatch? (before ++ VariableLine.reader.taken line ++ rest)
      (line.toMatch (Text.byteLength before)) = some line.variable :=
    Variable.ofMatch?_toMatch hread
  rw [Function.comp_apply, htext]
  dsimp only
  rw [hvariable]
  rfl

/-- The match of a reported variable lies in the body, and it starts a line. -/
theorem mem_reported {text : List Char} {header : Header} (hheader : header ∈ headerScan text)
    {entry : Match × Variable} (h : entry ∈ reported text header) :
    ∃ body ∈ bodyOf? text header, header.stop ≤ entry.1.span.start ∧
      entry.1.span.start < entry.1.span.stop ∧ entry.1.span.stop ≤ body.stop ∧
      ∃ before rest, text = before ++ rest ∧ entry.1.span.start = Text.byteLength before ∧
        (before = [] ∨ EndsLine before) := by
  rcases hbody : bodyOf? text header with - | body
  · rw [reported, hbody] at h
    cases h
  · obtain ⟨hstart, -, visible, hidden, rfl, hstop⟩ := bodyOf?_bounds hheader hbody
    rw [reported_eq hbody, hstop, Text.takeBytes_byteLength] at h
    obtain ⟨⟨offset, item⟩, hfound, rfl⟩ := List.mem_map.mp h
    obtain ⟨before, rest, htext, hoffset, hread, hposition, hline⟩ :=
      VariableLine.reader.mem_scan_text hfound
    have hne := mt Text.byteLength_eq_zero.mp (VariableLine.reader.taken_ne_nil hread)
    have hspan : (item.toMatch offset).span =
        ⟨offset, offset + Text.byteLength (VariableLine.reader.taken item)⟩ := rfl
    have hlength := congrArg Text.byteLength htext
    rw [Text.byteLength_append, Text.byteLength_append] at hlength
    rw [hspan]
    refine ⟨body, rfl, by dsimp only; omega, by dsimp only; omega, by dsimp only; omega,
      before, VariableLine.reader.taken item ++ rest ++ hidden, ?_, hoffset, hline⟩
    rw [htext]
    simp only [List.append_assoc]

/-! ## All functions of a text -/

/-- The headers that the default rules find in a text, in order. -/
def foundHeaders (text : List Char) : List Header :=
  (Extractor.headers (Rules.compile {}) text).map (·.2)

theorem foundHeaders_eq (text : List Char) : foundHeaders text = headerScan text := by
  rw [foundHeaders, headers_default, List.map_map]
  exact List.map_id _

/-- Each header line ends before the next one starts, and so does the body. -/
theorem pairwise_headerLines (text : List Char) :
    (headerLines text).Pairwise (fun a b => a.1 + Text.byteLength a.2.text ≤ b.1 ∧
      ∀ body ∈ bodyOf? text (a.2.header a.1), body.stop ≤ b.1) := by
  refine (HeaderLine.reader.pairwise_scan 0 true 0 text).imp_of_mem ?_
  intro a b ha hb hab
  exact ⟨hab, fun body hbody => body_stop_le ha hb hab hbody⟩

theorem rel_or_rel_of_pairwise {α : Type} {R : α → α → Prop} {items : List α}
    (h : items.Pairwise R) {a b : α} (ha : a ∈ items) (hb : b ∈ items) (hne : a ≠ b) :
    R a b ∨ R b a := by
  have hsymm : Std.Symm (fun x y => R x y ∨ R y x) := ⟨fun _ _ => Or.symm⟩
  exact (h.imp (S := fun x y => R x y ∨ R y x) Or.inl).forall ha hb hne

/-- A body shares no character with a header line, be that an earlier one, a later one or its
    own. -/
theorem body_apart_headerLine {text : List Char} {a b : Nat × HeaderLine}
    (ha : a ∈ headerLines text) (hb : b ∈ headerLines text) {body : BodySpan}
    (h : body ∈ bodyOf? text (a.2.header a.1)) :
    body.inner.Apart (b.2.toMatch b.1).span := by
  have hstart : body.bodyStart = a.1 + Text.byteLength a.2.text :=
    (bodyOf?_bounds (List.mem_map.mpr ⟨a, ha, rfl⟩) h).1
  by_cases heq : a = b
  · subst heq
    exact .inr hstart.ge
  · rcases rel_or_rel_of_pairwise (pairwise_headerLines text) ha hb heq with hlater | hearlier
    · exact .inl (hlater.2 body h)
    · refine .inr ?_
      change b.1 + Text.byteLength b.2.text ≤ body.bodyStart
      omega

theorem run_vars (options : TypingOptions) (text : List Char) :
    ((defaultExtractor options).run text).map (·.vars) =
      (foundHeaders text).map (fun header => (reported text header).map (·.2)) := by
  have hrules : (defaultExtractor options).rules = Rules.compile {} := rfl
  unfold Extractor.run
  dsimp only
  rw [hrules, List.map_map, foundHeaders, List.map_map]
  apply List.map_congr_left
  intro found _
  simp only [Function.comp_apply]
  exact variablesOf_eq_reported text found.2

section Functions

variable (text : List Char)

theorem header_mem {text : List Char} {found : Nat × HeaderLine} (h : found ∈ headerLines text) :
    found.2.header found.1 ∈ headerScan text := List.mem_map.mpr ⟨found, h, rfl⟩

/-- Each body ends before the next declaration. -/
theorem pairwise_stop_le_offset :
    (foundHeaders text).Pairwise (fun a b => ∀ body ∈ bodyOf? text a, body.stop ≤ b.offset) := by
  rw [foundHeaders_eq, headerScan_eq_map, List.pairwise_map]
  refine (pairwise_headerLines text).imp ?_
  intro a b hab body hbody
  exact le_trans (hab.2 body hbody) (Nat.le_add_right ..)

theorem pairwise_apart :
    (foundHeaders text).Pairwise (fun a b => a.span.Apart b.span ∧
      ∀ body ∈ bodyOf? text a, ∀ other ∈ bodyOf? text b, body.inner.Apart other.inner) := by
  rw [foundHeaders_eq, headerScan_eq_map, List.pairwise_map]
  refine (pairwise_headerLines text).imp_of_mem ?_
  intro a b ha hb hab
  refine ⟨.inl (le_trans hab.1 (Nat.le_add_right ..)), fun body hbody other hother => .inl ?_⟩
  obtain ⟨hstart, -⟩ := bodyOf?_bounds (header_mem hb) hother
  calc body.stop ≤ b.1 := hab.2 body hbody
    _ ≤ b.1 + Text.byteLength b.2.text := Nat.le_add_right ..
    _ = other.bodyStart := hstart.symm

theorem body_apart_header {a b : Header} (ha : a ∈ foundHeaders text) (hb : b ∈ foundHeaders text)
    {body : BodySpan} (h : body ∈ bodyOf? text a) : body.inner.Apart b.span := by
  rw [foundHeaders_eq] at ha hb
  obtain ⟨x, hx, rfl⟩ := List.mem_map.mp ha
  obtain ⟨y, hy, rfl⟩ := List.mem_map.mp hb
  exact (body_apart_headerLine hx hy h).mono ⟨le_rfl, le_rfl⟩ ⟨Nat.le_add_right .., le_rfl⟩

/-- The match of a variable shares no character with the match of a header. -/
theorem reported_apart_header {a : Header} (ha : a ∈ foundHeaders text)
    {entry : Match × Variable} (h : entry ∈ reported text a) {m : Match}
    (hm : m ∈ headerPattern.findAll text) : entry.1.span.Apart m.span := by
  rw [foundHeaders_eq] at ha
  rw [findAll_headerPattern] at hm
  obtain ⟨x, hx, rfl⟩ := List.mem_map.mp ha
  obtain ⟨y, hy, rfl⟩ := List.mem_map.mp hm
  obtain ⟨body, hbody, hstart, -, hstop, -⟩ := mem_reported ha h
  obtain ⟨hbegin, -⟩ := bodyOf?_bounds ha hbody
  exact (body_apart_headerLine hx hy hbody).mono ⟨hbegin.trans_le hstart, hstop⟩ ⟨le_rfl, le_rfl⟩

/-- The variables of a later function stand on later lines. -/
theorem pairwise_reported_lines :
    (foundHeaders text).Pairwise (fun a b => ∀ x ∈ reported text a, ∀ y ∈ reported text b,
      Text.breaksBefore x.1.span.start text < Text.breaksBefore y.1.span.start text) := by
  rw [foundHeaders_eq, headerScan_eq_map, List.pairwise_map]
  refine (pairwise_headerLines text).imp_of_mem ?_
  intro a b ha hb hab x hx y hy
  obtain ⟨body, hbody, -, hne, hstop, -⟩ := mem_reported (header_mem ha) hx
  obtain ⟨_, -, hstart, -, -, before, rest, htext, hy, hline⟩ := mem_reported (header_mem hb) hy
  have hlt : x.1.span.start < Text.byteLength before := by
    have hle := hab.2 body hbody
    change b.1 + Text.byteLength b.2.text ≤ y.1.span.start at hstart
    omega
  rcases hline with rfl | hline
  · simp at hlt
  · rw [hy, htext]
    exact Text.breaksBefore_lt_of_getLast? hline rest hlt

theorem foundHeaders_bounds {a : Header} (ha : a ∈ foundHeaders text) :
    a.offset < a.stop ∧
      ∀ body ∈ bodyOf? text a, body.bodyStart = a.stop ∧ body.bodyStart ≤ body.stop := by
  rw [foundHeaders_eq] at ha
  obtain ⟨found, hfound, rfl⟩ := List.mem_map.mp ha
  refine ⟨Nat.add_lt_add_left (indent_lt_text found.2) _, fun body hbody => ?_⟩
  obtain ⟨hstart, hle, -⟩ := bodyOf?_bounds ha hbody
  exact ⟨hstart, hstart.trans_le hle⟩

/-- **Functions of the default rules keep apart.** Each body lies before the next declaration;
    headers and bodies share no character with one another, nor do variables with headers; and no
    line declares a variable of two functions. -/
theorem bodies_apart (options : TypingOptions) :
    (∀ a ∈ foundHeaders text, a.offset < a.stop ∧
      ∀ body ∈ bodyOf? text a, body.bodyStart = a.stop ∧ body.bodyStart ≤ body.stop) ∧
    (foundHeaders text).Pairwise (fun a b => ∀ body ∈ bodyOf? text a, body.stop ≤ b.offset) ∧
    (foundHeaders text).Pairwise (fun a b => a.span.Apart b.span ∧
      ∀ body ∈ bodyOf? text a, ∀ other ∈ bodyOf? text b, body.inner.Apart other.inner) ∧
    (∀ a ∈ foundHeaders text, ∀ b ∈ foundHeaders text, ∀ body ∈ bodyOf? text a,
      body.inner.Apart b.span) ∧
    ((defaultExtractor options).run text).map (·.vars) =
      (foundHeaders text).map (fun a => (reported text a).map (·.2)) ∧
    (∀ a ∈ foundHeaders text, ∀ entry ∈ reported text a, ∀ m ∈ headerPattern.findAll text,
      entry.1.span.Apart m.span) ∧
    (foundHeaders text).Pairwise (fun a b => ∀ x ∈ reported text a, ∀ y ∈ reported text b,
      Text.breaksBefore x.1.span.start text < Text.breaksBefore y.1.span.start text) := by
  refine ⟨?_, pairwise_stop_le_offset text, pairwise_apart text, ?_, run_vars options text, ?_,
    pairwise_reported_lines text⟩
  · intro a ha
    exact foundHeaders_bounds text ha
  · intro a ha b hb body hbody
    exact body_apart_header text ha hb hbody
  · intro a ha entry hentry m hm
    exact reported_apart_header text ha hentry hm

end Functions

end ProgramOutline
