import ProgramOutline.Proofs.Grammar.Locality
import ProgramOutline.Proofs.Ownership

/-!
# Texts in sequence

Two texts in sequence have the functions of the first and then those of the second, moved on by the
first text. This holds for the default rules if the first text ends a line, closes its parentheses
and has a return line after its last header: then no header goes over the seam, and no body.

Results:
* `headerScan_append`: the headers of two texts in sequence.
* `ownVariables_append`, `ownVariables_shift`: the variables of the first text and of the second.
* `run_append`: the functions of two texts in sequence.
-/

namespace ProgramOutline

open Regex Grammar

/-! ## Headers -/

/-- A header `n` bytes later. -/
def Header.shift (n : Nat) (header : Header) : Header :=
  { header with offset := header.offset + n, stop := header.stop + n }

@[simp]
theorem Header.shift_offset (n : Nat) (header : Header) :
    (header.shift n).offset = header.offset + n := rfl

@[simp]
theorem Header.shift_stop (n : Nat) (header : Header) :
    (header.shift n).stop = header.stop + n := rfl

theorem header_shift (n offset : Nat) (line : HeaderLine) :
    line.header (offset + n) = (line.header offset).shift n := by
  have hoffset : offset + n + Text.byteLength line.indent =
      offset + Text.byteLength line.indent + n := by omega
  have hstop : offset + n + Text.byteLength line.text =
      offset + Text.byteLength line.text + n := by omega
  simp [HeaderLine.header, Header.shift, hoffset, hstop]

theorem headerScan_append {text : List Char} (hline : EndsLine text) (hcloses : Closes text)
    (u : List Char) :
    headerScan (text ++ u) =
      headerScan text ++ (headerScan u).map (Header.shift (Text.byteLength text)) := by
  have hscan := LineReader.scan_append_shift (HeaderLine.reader_local hline hcloses u) hline
    (Nat.zero_le (Text.byteLength text))
  rw [headerScan, headerScan, headerScan, hscan, List.map_append, List.map_map, List.map_map]
  congr 1
  apply List.map_congr_left
  intro found _
  exact header_shift ..

theorem headers_append {text : List Char} (hline : EndsLine text) (hcloses : Closes text)
    (u : List Char) :
    Extractor.headers (Rules.compile {}) (text ++ u) =
      Extractor.headers (Rules.compile {}) text ++
        (Extractor.headers (Rules.compile {}) u).map (fun found =>
          (found.1, found.2.shift (Text.byteLength text))) := by
  rw [headers_default, headers_default, headers_default, headerScan_append hline hcloses,
    List.map_append, List.map_map, List.map_map]
  rfl

/-! ## Return lines -/

/-- A return line starts and ends in the text. -/
theorem firstReturn?_bounds {text : List Char} {start offset : Nat} {line : ReturnLine}
    (h : firstReturn? text start = some (offset, line)) :
    offset + Text.byteLength line.text ≤ Text.byteLength text ∧
      offset < Text.byteLength text := by
  obtain ⟨before, rest, htext, rfl, -⟩ := firstReturn?_split h
  have hne := firstReturn?_pos h
  rw [htext, Text.byteLength_append, Text.byteLength_append]
  constructor <;> omega

theorem firstReturn?_append {text : List Char} (hline : EndsLine text) (u : List Char)
    {start : Nat} (hstart : start ≤ Text.byteLength text) {found : Nat × ReturnLine}
    (h : firstReturn? text start = some found) :
    firstReturn? (text ++ u) start = some found := by
  have hscan := LineReader.scan_append_shift (ReturnLine.reader_local hline u) hline hstart
  unfold firstReturn? at h ⊢
  rw [hscan, List.head?_append, h, Option.some_or]

theorem firstReturn?_shift {text : List Char} (hline : EndsLine text) (u : List Char)
    (start : Nat) :
    firstReturn? (text ++ u) (start + Text.byteLength text) =
      (firstReturn? u start).map (fun found => (found.1 + Text.byteLength text, found.2)) := by
  unfold firstReturn?
  rw [LineReader.scan_past_shift hline, List.head?_map]

theorem isSome_firstReturn?_of_le {text : List Char} {start later : Nat} (hle : start ≤ later)
    (h : (firstReturn? text later).isSome) : (firstReturn? text start).isSome := by
  unfold firstReturn? at h ⊢
  rw [List.isSome_head?] at h ⊢
  exact fun hnil => h (ReturnLine.reader.scan_eq_nil_of_le hle hnil)

/-- The text has no function, or a return line at or after the end of its last header. -/
def Ended (text : List Char) : Prop :=
  ∀ found ∈ (Extractor.headers (Rules.compile {}) text).getLast?,
    (firstReturn? text found.2.stop).isSome

theorem ended_iff (text : List Char) :
    Ended text ↔
      ∀ header ∈ (headerScan text).getLast?, (firstReturn? text header.stop).isSome := by
  unfold Ended
  rw [headers_default, List.getLast?_map]
  simp

instance (text : List Char) : Decidable (Ended text) :=
  decidable_of_iff _ (ended_iff text).symm

/-- After every header of such a text there is a return line. -/
theorem Ended.isSome {text : List Char} (h : Ended text) {found : FunctionRule × Header}
    (hfound : found ∈ Extractor.headers (Rules.compile {}) text) :
    (firstReturn? text found.2.stop).isSome := by
  rw [headers_default] at hfound
  obtain ⟨header, hheader, rfl⟩ := List.mem_map.mp hfound
  obtain ⟨last, hlast⟩ := Option.isSome_iff_exists.mp
    (List.getLast?_isSome.mpr (List.ne_nil_of_mem hheader))
  have hreturn : (firstReturn? text last.stop).isSome := (ended_iff text).mp h last hlast
  -- the last header ends last
  obtain ⟨others, hsplit⟩ := List.getLast?_eq_some_iff.mp hlast
  have hordered := stop_le_offset_headerScan text
  have hmem : last ∈ scanHeaders headerPattern text := by
    rw [scanHeaders_headerPattern]
    exact List.mem_of_getLast? hlast
  have hbounds := header_bounds hmem
  apply isSome_firstReturn?_of_le _ hreturn
  rw [hsplit] at hheader hordered
  rcases List.mem_append.mp hheader with hmem | hmem
  · have hstop := (List.pairwise_append.mp hordered).2.2 header hmem last (by simp)
    dsimp only
    omega
  · obtain rfl := List.mem_singleton.mp hmem
    exact le_refl _

/-! ## Variables -/

/-- The variables of a header of the first text: its return line stands in that text, and what is
    declared later is declared after that line. -/
theorem ownVariables_append {rule : Pattern} {text : List Char} (hline : EndsLine text)
    (u : List Char) (found : List (FunctionRule × Header))
    {later : List (FunctionRule × Header)}
    (hlater : ∀ other ∈ later, Text.byteLength text ≤ other.2.offset) {header : Header}
    (hstop : header.stop ≤ Text.byteLength text)
    (hreturn : (firstReturn? text header.stop).isSome) :
    ownVariables rule (text ++ u) (found ++ later) header =
      ownVariables rule text found header := by
  obtain ⟨⟨offset, line⟩, hfirst⟩ := Option.isSome_iff_exists.mp hreturn
  obtain ⟨hend, hoffset⟩ := firstReturn?_bounds hfirst
  have hbetween : DeclaredBetween (found ++ later) header.offset offset ↔
      DeclaredBetween found header.offset offset := by
    constructor
    · rintro ⟨other, hother, hlt, hle⟩
      rcases List.mem_append.mp hother with hother | hother
      · exact ⟨other, hother, hlt, hle⟩
      · have := hlater other hother
        omega
    · rintro ⟨other, hother, hlt, hle⟩
      exact ⟨other, List.mem_append_left later hother, hlt, hle⟩
  have hvisible : Text.takeBytes (offset + Text.byteLength line.text) (text ++ u) =
      Text.takeBytes (offset + Text.byteLength line.text) text :=
    Text.takeBytes_append_of_le hend u
  rw [ownVariables, ownVariables, firstReturn?_append hline u hstop hfirst, hfirst]
  dsimp only
  rw [scanVariables, scanVariables, hvisible]
  by_cases hdeclared : DeclaredBetween found header.offset offset
  · rw [if_pos hdeclared, if_pos (hbetween.mpr hdeclared)]
  · rw [if_neg hdeclared, if_neg (mt hbetween.mp hdeclared)]

theorem scanVariables_shift {text : List Char} (hline : EndsLine text) (u : List Char)
    (start stop : Nat) :
    scanVariables variablePattern (text ++ u) (start + Text.byteLength text)
        (stop + Text.byteLength text) =
      scanVariables variablePattern u start stop := by
  have hvisible : Text.takeBytes (stop + Text.byteLength text) (text ++ u) =
      text ++ Text.takeBytes stop u := by
    rw [Nat.add_comm]
    exact Text.takeBytes_append text u stop
  rw [scanVariables_variablePattern, scanVariables_variablePattern, hvisible, variableScan,
    LineReader.scan_past_shift hline, variableScan, List.map_map]
  rfl

/-- The variables of a header of the second text: what is declared in the first text is declared
    before it. -/
theorem ownVariables_shift {text : List Char} (hline : EndsLine text) (u : List Char)
    {earlier : List (FunctionRule × Header)}
    (hearlier : ∀ other ∈ earlier, other.2.offset ≤ Text.byteLength text)
    (found : List (FunctionRule × Header)) (header : Header) :
    ownVariables variablePattern (text ++ u)
        (earlier ++ found.map (fun other => (other.1, other.2.shift (Text.byteLength text))))
        (header.shift (Text.byteLength text)) =
      ownVariables variablePattern u found header := by
  have hbetween : ∀ offset, DeclaredBetween
      (earlier ++ found.map (fun other => (other.1, other.2.shift (Text.byteLength text))))
      (header.offset + Text.byteLength text) (offset + Text.byteLength text) ↔
      DeclaredBetween found header.offset offset := by
    intro offset
    constructor
    · rintro ⟨other, hother, hlt, hle⟩
      rcases List.mem_append.mp hother with hother | hother
      · have := hearlier other hother
        omega
      · obtain ⟨origin, horigin, rfl⟩ := List.mem_map.mp hother
        rw [Header.shift_offset] at hlt hle
        exact ⟨origin, horigin, by omega, by omega⟩
    · rintro ⟨other, hother, hlt, hle⟩
      refine ⟨_, List.mem_append_right earlier (List.mem_map.mpr ⟨other, hother, rfl⟩), ?_, ?_⟩
      · rw [Header.shift_offset]
        omega
      · rw [Header.shift_offset]
        omega
  have hfirst : firstReturn? (text ++ u) (header.shift (Text.byteLength text)).stop =
      (firstReturn? u header.stop).map (fun found => (found.1 + Text.byteLength text, found.2)) :=
    firstReturn?_shift hline u header.stop
  rw [ownVariables, ownVariables, hfirst]
  rcases firstReturn? u header.stop with - | ⟨offset, line⟩
  · rfl
  · have hstop : offset + Text.byteLength text + Text.byteLength line.text =
        offset + Text.byteLength line.text + Text.byteLength text := by omega
    simp only [Option.map_some, Header.shift_offset, Header.shift_stop, hstop,
      scanVariables_shift hline, hbetween]

/-! ## Functions -/

/-- The default rules with any options. -/
def defaultExtractor (options : TypingOptions) : Extractor := ⟨Rules.compile {}, options⟩

/-- The functions that the default rules find stand for the headers, one by one. -/
theorem run_default (options : TypingOptions) (text : List Char) :
    (defaultExtractor options).run text = (Extractor.headers (Rules.compile {}) text).map
      ((defaultExtractor options).symbolOf variablePattern text) := by
  have hvars : (defaultExtractor options).rules.vars = some variablePattern := Rules.vars_default
  exact run_eq_map _ hvars text

/-- A function as it is found after the text `before`: it stands later by the length and the lines
    of that text, and its identity goes with its place. Line numbers are words, so the sum wraps
    around as they do. -/
def FunctionSymbol.after (before : List Char) (symbol : FunctionSymbol) : FunctionSymbol :=
  { symbol with
    id := identity symbol.rule symbol.name (symbol.offset + Text.byteLength before)
    line := symbol.line + UInt32.ofNat (before.count '\n')
    offset := symbol.offset + Text.byteLength before }

theorem lineOf_append_of_le {text : List Char} {offset : Nat} (h : offset ≤ Text.byteLength text)
    (u : List Char) : Text.lineOf (text ++ u) offset = Text.lineOf text offset := by
  rw [Text.lineOf, Text.lineOf, Text.breaksBefore_append_of_le h]

theorem lineOf_append (text u : List Char) (offset : Nat) :
    Text.lineOf (text ++ u) (offset + Text.byteLength text) =
      Text.lineOf u offset + UInt32.ofNat (text.count '\n') := by
  have hbreaks : Text.breaksBefore (offset + Text.byteLength text) (text ++ u) + 1 =
      Text.breaksBefore offset u + 1 + text.count '\n' := by
    rw [Nat.add_comm offset, Text.breaksBefore_append]
    omega
  rw [Text.lineOf, Text.lineOf, hbreaks, UInt32.ofNat_add]

/-- The functions of two texts in sequence: those of the first and, moved on, those of the
    second. -/
theorem run_append (options : TypingOptions) {text : List Char} (hline : EndsLine text)
    (hcloses : Closes text) (hended : Ended text) (u : List Char) :
    (defaultExtractor options).run (text ++ u) =
      (defaultExtractor options).run text ++
        ((defaultExtractor options).run u).map (FunctionSymbol.after text) := by
  have hheaders : Extractor.headers (defaultExtractor options).rules (text ++ u) =
      Extractor.headers (defaultExtractor options).rules text ++
        (Extractor.headers (defaultExtractor options).rules u).map (fun found =>
          (found.1, found.2.shift (Text.byteLength text))) :=
    headers_append hline hcloses u
  have hvars : (defaultExtractor options).rules.vars = some variablePattern :=
    Rules.vars_default
  rw [run_eq_map _ hvars, run_eq_map _ hvars, run_eq_map _ hvars, hheaders, List.map_append,
    List.map_map, List.map_map]
  refine congrArg₂ (· ++ ·) ?_ ?_
  · apply List.map_congr_left
    intro found hfound
    obtain ⟨hle, hlength⟩ := header_bounds_of_mem hfound
    unfold Extractor.symbolOf
    rw [hheaders, lineOf_append_of_le (by omega), ownVariables_append hline u _ _ hlength
      (hended.isSome hfound)]
    intro other hother
    obtain ⟨origin, -, rfl⟩ := List.mem_map.mp hother
    rw [Header.shift_offset]
    omega
  · apply List.map_congr_left
    intro found _
    have hearlier : ∀ other ∈ Extractor.headers (defaultExtractor options).rules text,
        other.2.offset ≤ Text.byteLength text := by
      intro other hother
      obtain ⟨hle, hlength⟩ := header_bounds_of_mem hother
      omega
    have hown := ownVariables_shift hline u hearlier
      (Extractor.headers (defaultExtractor options).rules u) found.2
    simp only [Function.comp_apply, Extractor.symbolOf, FunctionSymbol.after, hheaders, hown]
    simp only [Header.shift, lineOf_append]

/-- A function with its end. -/
def terminated : List Char := "Static Function A(x)\nLocal y\nReturn\n".toList

theorem run_append_two :
    EndsLine terminated ∧ Closes terminated ∧ Ended terminated ∧
      (defaultExtractor {}).run (terminated ++ terminated) =
        (defaultExtractor {}).run terminated ++
          ((defaultExtractor {}).run terminated).map (FunctionSymbol.after terminated) := by
  have hline : EndsLine terminated := by decide
  have hcloses : Closes terminated := by decide
  have hended : Ended terminated := by decide +kernel
  exact ⟨hline, hcloses, hended, run_append {} hline hcloses hended terminated⟩

end ProgramOutline
