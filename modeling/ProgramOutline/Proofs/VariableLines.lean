import ProgramOutline.Proofs.BodyEnds
import ProgramOutline.Proofs.Navigation
import ProgramOutline.Proofs.Qualifiers
import ProgramOutline.Proofs.Text.Checked

/-!
# Variables line by line

The default variable rule is searched for in the text up to the end of the body, and after a match
the search goes on in mid-line. What it finds is nevertheless what the lines of the body tell, each
taken for itself: a declaration does not go beyond its line, and a body ends with a line.

Results:
* `Variable.ofLine?_eq_some_iff`: the variable of a line, by the form of the line.
* `LineReader.scan_eq_filterMap`: a scan for items that stay in a line looks at the line starts one
  by one.
* `findBody_visible`: every body ends where a line ends.
* `scanVariables_bodyLines`: the variables of a body are those of its lines, in order.
-/

namespace ProgramOutline

open Regex Grammar Unicode

/-! ## Lines that declare a variable -/

/-- The line declares a variable: an indent, one of the words for a scope in some case, a gap, and
    the name, which is all word characters that stand there. What follows the name is of no
    account. -/
def DeclaresVariable (v : Variable) (line : List Char) : Prop :=
  ∃ indent gap after,
    line = indent ++ (v.scope.toList ++ (gap ++ (v.name.toList ++ after))) ∧ AllGap indent ∧
      (∃ word ∈ scopes, EqualUpToCase word v.scope.toList) ∧ gap ≠ [] ∧ AllGap gap ∧
      v.name.toList ≠ [] ∧ (∀ c ∈ v.name.toList, isWord c = true) ∧
      after.head?.any isWord = false

/-- The variable that a line declares. -/
def Variable.ofLine? (line : List Char) : Option Variable :=
  (variableLine? line).map (fun found => found.1.variable)

/-- The line that starts at a byte offset, without its line feed. -/
def Text.lineAt (text : List Char) (start : Nat) : List Char :=
  (dropBytes start text).takeWhile (· != '\n')

/-- The lines that start at or after `start` and before `stop`. -/
def Text.linesBetween (text : List Char) (start stop : Nat) : List (List Char) :=
  ((0 :: lineStarts 0 text).filter (fun p => start ≤ p && p < stop)).map (lineAt text)

/-! ## Reading what is there -/

theorem word?_of_equalUpToCase {word taken : List Char} (h : EqualUpToCase word taken)
    (rest : List Char) : word? word (taken ++ rest) = some (taken, rest) := by
  induction h with
  | nil => rfl
  | cons hk _ ih =>
    rw [List.cons_append, word?_cons, if_pos hk, ih]
    rfl

/-- Of words that clash at most one can be read, so the first that is read is any that is. -/
theorem oneOf?_of_word? {words : List (List Char)} (hclash : words.Pairwise Clash)
    {word text : List Char} (hmem : word ∈ words) {found : List Char × List Char}
    (h : word? word text = some found) : oneOf? words text = some found := by
  induction words with
  | nil => cases hmem
  | cons first later ih =>
    obtain ⟨hfirst, hlater⟩ := List.pairwise_cons.mp hclash
    rw [oneOf?_cons]
    rcases List.mem_cons.mp hmem with rfl | hmem
    · rw [h]
      rfl
    · cases hread : word? first text with
      | none => exact ih hlater hmem
      | some other => cases (word?_of_clash (hfirst word hmem) hread).symm.trans h

section Runs

variable {p : Char → Bool} {taken rest : List Char}

theorem takeWhile_of_head? (h : rest.head?.any p = false) : rest.takeWhile p = [] := by
  cases rest with
  | nil => rfl
  | cons c rest => exact List.takeWhile_cons_of_neg (by simpa using h)

theorem head?_any_dropWhile (p : Char → Bool) (text : List Char) :
    (text.dropWhile p).head?.any p = false := by
  have hstop := List.head?_dropWhile_not p text
  cases hhead : (text.dropWhile p).head? with
  | none => rfl
  | some c => simpa [hhead] using hstop

theorem dropWhile_of_head? (h : rest.head?.any p = false) : rest.dropWhile p = rest := by
  cases rest with
  | nil => rfl
  | cons c rest => exact List.dropWhile_cons_of_neg (by simpa using h)

theorem takeWhile_append_of_head? (hall : ∀ c ∈ taken, p c = true)
    (h : rest.head?.any p = false) : (taken ++ rest).takeWhile p = taken := by
  rw [List.takeWhile_append_of_pos hall, takeWhile_of_head? h, List.append_nil]

theorem dropWhile_append_of_head? (hall : ∀ c ∈ taken, p c = true)
    (h : rest.head?.any p = false) : (taken ++ rest).dropWhile p = rest := by
  rw [List.dropWhile_append_of_pos hall, dropWhile_of_head? h]

theorem run?_append_of_head? (hne : taken ≠ []) (hall : ∀ c ∈ taken, p c = true)
    (h : rest.head?.any p = false) : run? p (taken ++ rest) = some (taken, rest) := by
  rw [run?, takeWhile_append_of_head? hall h, dropWhile_append_of_head? hall h]
  exact if_neg (by simpa using hne)

/-- What starts with ink does not start with a gap. -/
theorem head?_any_isGap (hne : taken ≠ []) (hink : ∀ c ∈ taken, Text.isBlank c = false)
    (rest : List Char) : (taken ++ rest).head?.any isGap = false := by
  cases taken with
  | nil => exact absurd rfl hne
  | cons c taken =>
    have hc : Text.isBlank c = false := hink c (by simp)
    by_contra hgap
    have hgap : isGap c = true := by simpa using hgap
    cases (isBlank_of_isGap hgap).symm.trans hc

end Runs

/-! ## The variable of a line -/

/-- A scope is written with ink. -/
theorem ink_of_equalUpToCase {word scope : List Char} (hmem : word ∈ scopes)
    (h : EqualUpToCase word scope) : scope ≠ [] ∧ ∀ c ∈ scope, Text.isBlank c = false := by
  have hread := word?_of_equalUpToCase h []
  have hne : ∀ word ∈ scopes, word ≠ [] := by decide
  exact ⟨ne_nil_of_word? (hne word hmem) hread,
    fun c hc => isBlank_of_word? (scopes_letters word hmem) hread hc⟩

/-- No part of a declaration has a line feed. -/
theorem ne_break_of_parts {indent word scope gap name : List Char} (hindent : AllGap indent)
    (hmem : word ∈ scopes) (hscope : EqualUpToCase word scope) (hgap : AllGap gap)
    (hname : ∀ c ∈ name, isWord c = true) :
    ∀ c ∈ indent ++ (scope ++ (gap ++ name)), (c != '\n') = true := by
  have hnameInk : ∀ c ∈ name, Text.isBlank c = false :=
    fun c hc => isBlank_of_isWord (hname c hc)
  intro c hc
  simp only [List.mem_append] at hc
  rcases hc with hc | hc | hc | hc
  · exact hindent.ne_break c hc
  · exact ne_break_of_ink (ink_of_equalUpToCase hmem hscope).2 c hc
  · exact hgap.ne_break c hc
  · exact ne_break_of_ink hnameInk c hc

/-- What the grammar reads has the form of a declaration. -/
theorem declares_of_variableLine? {text rest : List Char} {line : VariableLine}
    (h : variableLine? text = some (line, rest)) : DeclaresVariable line.variable text := by
  have hsplit := variableLine?_split h
  obtain ⟨hindent, word, hmem, text₁, text₂, hword, hgap, hname⟩ := variableLine?_eq_some h
  obtain ⟨-, hrest, hne⟩ := run?_eq_some hname
  have hscope : line.variable.scope.toList = line.scope := String.toList_ofList
  have hnameText : line.variable.name.toList = line.name := String.toList_ofList
  rw [DeclaresVariable, hscope, hnameText]
  refine ⟨line.indent, line.gap, rest, ?_, hindent ▸ AllGap.of_takeWhile text,
    ⟨word, hmem, word?_forall₂ hword⟩, (run?_eq_some hgap).2.2, forall_of_run? hgap, hne,
    forall_of_run? hname, hrest ▸ head?_any_dropWhile isWord text₂⟩
  simpa [VariableLine.text] using hsplit

/-- What has the form of a declaration is read by the grammar, part by part: each part ends where
    the next one begins. -/
theorem variableLine?_of_parts {indent word scope gap name after : List Char}
    (hindent : AllGap indent) (hmem : word ∈ scopes) (hscope : EqualUpToCase word scope)
    (hne : gap ≠ []) (hgap : AllGap gap) (hname : name ≠ []) (hword : ∀ c ∈ name, isWord c = true)
    (hafter : after.head?.any isWord = false) :
    variableLine? (indent ++ (scope ++ (gap ++ (name ++ after)))) =
      some (⟨indent, scope, gap, name⟩, after) := by
  obtain ⟨hscopeNe, hscopeInk⟩ := ink_of_equalUpToCase hmem hscope
  have hnameInk : ∀ c ∈ name, Text.isBlank c = false := fun c hc => isBlank_of_isWord (hword c hc)
  have hindentStop := head?_any_isGap hscopeNe hscopeInk (gap ++ (name ++ after))
  have hgapStop := head?_any_isGap hname hnameInk after
  rw [variableLine?, takeWhile_append_of_head? hindent hindentStop,
    dropWhile_append_of_head? hindent hindentStop,
    oneOf?_of_word? scopes_clash hmem (word?_of_equalUpToCase hscope _)]
  simp only [Option.bind_eq_bind, Option.bind_some]
  rw [run?_append_of_head? hne hgap hgapStop, Option.bind_some]
  dsimp only
  rw [run?_append_of_head? hname hword hafter, Option.bind_some]
  rfl

/-- The variable of a line is what its form says. -/
theorem Variable.ofLine?_eq_some_iff {line : List Char} {v : Variable} :
    Variable.ofLine? line = some v ↔ DeclaresVariable v line := by
  rw [Variable.ofLine?, Option.map_eq_some_iff]
  constructor
  · rintro ⟨⟨found, rest⟩, hread, rfl⟩
    exact declares_of_variableLine? hread
  · rintro ⟨indent, gap, after, rfl, hindent, ⟨word, hmem, hscope⟩, hne, hgap, hname, hword, hafter⟩
    refine ⟨_, variableLine?_of_parts hindent hmem hscope hne hgap hname hword hafter, ?_⟩
    simp [VariableLine.variable]

/-- A declaration does not go beyond its line. -/
theorem declaresVariable_takeWhile {v : Variable} {text : List Char} :
    DeclaresVariable v (text.takeWhile (· != '\n')) ↔ DeclaresVariable v text := by
  constructor
  · rintro ⟨indent, gap, after, hline, hindent, hscope, hne, hgap, hname, hword, hafter⟩
    refine ⟨indent, gap, after ++ text.dropWhile (· != '\n'), ?_, hindent, hscope, hne, hgap, hname,
      hword, ?_⟩
    · calc text = text.takeWhile (· != '\n') ++ text.dropWhile (· != '\n') :=
            List.takeWhile_append_dropWhile.symm
        _ = _ := by
            rw [hline]
            simp only [List.append_assoc]
    · cases after with
      | cons c after => simpa using hafter
      | nil =>
        have hbreak := head_dropWhile_break text
        cases hhead : (text.dropWhile (· != '\n')).head? with
        | none => simp [hhead]
        | some c =>
          obtain rfl : c = '\n' := hbreak c hhead
          simp [hhead, isWord_break]
  · rintro ⟨indent, gap, after, rfl, hindent, ⟨word, hmem, hscope⟩, hne, hgap, hname, hword, hafter⟩
    have hbreak := ne_break_of_parts hindent hmem hscope hgap hword
    refine ⟨indent, gap, after.takeWhile (· != '\n'), ?_, hindent, ⟨word, hmem, hscope⟩, hne, hgap,
      hname, hword, ?_⟩
    · have hparts : indent ++ (v.scope.toList ++ (gap ++ (v.name.toList ++ after))) =
          indent ++ (v.scope.toList ++ (gap ++ v.name.toList)) ++ after := by
        simp only [List.append_assoc]
      rw [hparts, List.takeWhile_append_of_pos hbreak]
      simp only [List.append_assoc]
    · cases after with
      | nil => rfl
      | cons c after =>
        rw [List.takeWhile_cons]
        split
        · simpa using hafter
        · rfl

/-- Only its own line tells what variable is declared. -/
theorem Variable.ofLine?_takeWhile (text : List Char) :
    Variable.ofLine? (text.takeWhile (· != '\n')) = Variable.ofLine? text := by
  apply Option.ext
  intro v
  rw [Variable.ofLine?_eq_some_iff, Variable.ofLine?_eq_some_iff, declaresVariable_takeWhile]

/-- A variable line has no line feed. -/
theorem break_notMem_variableLine {text rest : List Char} {line : VariableLine}
    (h : variableLine? text = some (line, rest)) : '\n' ∉ line.text := by
  obtain ⟨hindent, word, hmem, text₁, text₂, hword, hgap, hname⟩ := variableLine?_eq_some h
  have hindentGap : AllGap line.indent := hindent ▸ AllGap.of_takeWhile text
  have hbreak := ne_break_of_parts hindentGap hmem (word?_forall₂ hword) (forall_of_run? hgap)
    (forall_of_run? hname)
  intro hmemBreak
  exact absurd (hbreak _ hmemBreak) (by decide)

/-! ## A scan as a walk over the line starts -/

theorem Text.lineStarts_eq_nil {text : List Char} (h : '\n' ∉ text) (offset : Nat) :
    lineStarts offset text = [] := by
  induction text generalizing offset with
  | nil => rfl
  | cons c rest ih =>
    simp only [List.mem_cons, not_or] at h
    rw [lineStarts_cons, if_neg (Ne.symm h.1)]
    exact ih h.2 _

/-- If no item goes beyond its line, a scan gives what can be read at the line starts. -/
theorem LineReader.scan_eq_filterMap {α : Type} (r : LineReader α)
    (hinside : ∀ {text item rest}, r.read? text = some (item, rest) → '\n' ∉ r.taken item)
    (position : Nat) (lineStart : Bool) (offset : Nat) (text : List Char) :
    r.scan position lineStart offset text =
      (Text.lineStartsFrom lineStart offset text).filterMap (r.readAt? position offset text) := by
  induction position, lineStart, offset, text using r.scan_induction with
  | item position offset text item rest hpos hread ih =>
    -- there is no line start in the item and up to its end
    have hsplit := r.split hread
    have hstarts : Text.lineStartsFrom true offset text =
        offset :: Text.lineStartsFrom false (offset + Text.byteLength (r.taken item)) rest := by
      rw [hsplit, Text.lineStartsFrom, Text.lineStartsFrom, Text.lineStarts_append,
        Text.lineStarts_eq_nil (hinside hread)]
      rfl
    rw [r.scan_of_read hpos hread, hstarts,
      List.filterMap_cons_some (r.readAt?_of_read hpos hread), ih]
    congr 1
    apply List.filterMap_congr
    intro p hp
    have hle := Text.le_of_mem_lineStartsFrom hp
    rw [hsplit, r.readAt?_append hle, readAt?, readAt?, if_pos hle, if_pos (by omega)]
  | pass position lineStart offset c rest hpass ih =>
    have hhere : (if lineStart then [offset] else []).filterMap
        (r.readAt? position offset (c :: rest)) = [] :=
      List.filterMap_eq_nil_iff.mpr (fun p hp => r.readAt?_of_passes hpass hp)
    rw [r.scan_cons hpass, ih, Text.lineStartsFrom_cons, List.filterMap_append, hhere,
      List.nil_append]
    apply List.filterMap_congr
    intro p hp
    exact (r.readAt?_cons (Text.le_of_mem_lineStartsFrom hp)).symm
  | done position lineStart offset hpass =>
    rw [r.scan_nil hpass, eq_comm]
    exact List.filterMap_eq_nil_iff.mpr (fun p _ => r.readAt?_nil position offset p)

/-! ## The lines of a body -/

/-- Every body ends at the end of the text or of a line. -/
theorem findBody_visible {text : List Char} {start headerStop : Nat} {limit : Option Nat}
    {body : BodySpan} (h : findBody text start headerStop limit = some body) :
    ∃ visible hidden, text = visible ++ hidden ∧ body.stop = Text.byteLength visible ∧
      (hidden = [] ∨ EndsLine visible) := by
  obtain ⟨-, offset, line, hfirst, -, rfl⟩ := findBody_eq_some h
  exact firstReturn?_visible hfirst

theorem Text.exists_of_mem_lineStartsFrom {lineStart : Bool} {offset p : Nat} {text : List Char}
    (h : p ∈ lineStartsFrom lineStart offset text) :
    ∃ before rest, text = before ++ rest ∧ p = offset + byteLength before := by
  induction text generalizing lineStart offset with
  | nil =>
    refine ⟨[], [], rfl, ?_⟩
    rw [lineStartsFrom, lineStarts, List.append_nil] at h
    split at h
    · simpa using h
    · cases h
  | cons c text ih =>
    rw [lineStartsFrom_cons] at h
    rcases List.mem_append.mp h with h | h
    · refine ⟨[], c :: text, rfl, ?_⟩
      split at h
      · simpa using h
      · cases h
    · obtain ⟨before, rest, rfl, hp⟩ := ih h
      refine ⟨c :: before, rest, rfl, ?_⟩
      rw [hp, byteLength_cons, Nat.add_assoc]

/-- A line that starts before the end of what is visible is visible as a whole, if that ends with a
    line. -/
theorem Text.lineAt_append {before rest hidden : List Char} (hne : rest ≠ [])
    (hends : hidden = [] ∨ EndsLine (before ++ rest)) :
    lineAt (before ++ rest ++ hidden) (byteLength before) = rest.takeWhile (· != '\n') := by
  rw [lineAt, List.append_assoc, dropBytes_byteLength]
  rcases hends with rfl | hends
  · rw [List.append_nil]
  · have hrest : EndsLine rest := hends.of_suffix (List.suffix_append ..) hne
    exact takeWhile_append_of_mem (p := (· != '\n')) hrest.mem (by decide) hidden

/-- What lines tell that start in the visible part of a text is what the visible part tells at its
    line starts. -/
theorem ofLine?_linesBetween {visible hidden : List Char}
    (hends : hidden = [] ∨ EndsLine visible) (start : Nat) :
    (Text.linesBetween (visible ++ hidden) start (Text.byteLength visible)).filterMap
        Variable.ofLine? =
      (Text.lineStartsFrom true 0 visible).filterMap (fun p =>
        if start ≤ p then Variable.ofLine? (Text.dropBytes p visible) else none) := by
  have hstarts : 0 :: Text.lineStarts 0 (visible ++ hidden) =
      Text.lineStartsFrom true 0 visible ++
        Text.lineStarts (Text.byteLength visible) hidden := by
    rw [Text.lineStarts_append, Nat.zero_add]
    rfl
  have hhidden : (Text.lineStarts (Text.byteLength visible) hidden).filter
      (fun p => start ≤ p && p < Text.byteLength visible) = [] := by
    apply List.filter_eq_nil_iff.mpr
    intro p hp
    have hlt := Text.lt_of_mem_lineStarts hp
    simp only [Bool.and_eq_true, decide_eq_true_eq]
    omega
  rw [Text.linesBetween, hstarts, List.filter_append, hhidden, List.append_nil, List.filterMap_map,
    List.filterMap_filter]
  apply List.filterMap_congr
  intro p hp
  obtain ⟨before, rest, rfl, hbefore⟩ := Text.exists_of_mem_lineStartsFrom hp
  obtain rfl : p = Text.byteLength before := by simpa using hbefore
  rw [Text.dropBytes_byteLength]
  rcases rest with - | ⟨c, rest⟩
  · -- no line of the body starts at its end
    have hnil : Variable.ofLine? [] = none := rfl
    simp [hnil]
  · have hlt : Text.byteLength before < Text.byteLength (before ++ c :: rest) := by
      have hpos := Char.utf8Size_pos c
      rw [Text.byteLength_append, Text.byteLength_cons]
      omega
    simp only [hlt, decide_true, Bool.and_true, decide_eq_true_eq, Function.comp_apply,
      Text.lineAt_append (List.cons_ne_nil c rest) hends, Variable.ofLine?_takeWhile]

/-- The variables that a scan finds in a text are those that it has at its line starts. -/
theorem variableScan_eq_filterMap (text : List Char) (start : Nat) :
    variableScan text start = (Text.lineStartsFrom true 0 text).filterMap (fun p =>
      if start ≤ p then Variable.ofLine? (Text.dropBytes p text) else none) := by
  rw [variableScan, VariableLine.reader.scan_eq_filterMap break_notMem_variableLine,
    List.map_filterMap]
  apply List.filterMap_congr
  intro p _
  rw [LineReader.readAt?, Nat.sub_zero]
  split
  · rw [Option.map_map]
    rfl
  · rfl

/-- **The variables of a body, line by line.** The default variable rule declares in a body one
    variable for each line of it that has the form of a declaration, in the order of the lines, with
    repetitions. -/
theorem scanVariables_bodyLines :
    ∃ rule, compileRule .vars (some defaultVariableRule) = .ok (some rule) ∧
      (∀ line v, Variable.ofLine? line = some v ↔ DeclaresVariable v line) ∧
      ∀ text start headerStop limit body, findBody text start headerStop limit = some body →
        scanVariables? rule text body.bodyStart body.stop =
          some ((Text.linesBetween text body.bodyStart body.stop).filterMap Variable.ofLine?) := by
  refine ⟨variablePattern, compileRule_vars_default,
    fun line v => Variable.ofLine?_eq_some_iff, ?_⟩
  intro text start headerStop limit body hbody
  obtain ⟨visible, hidden, rfl, hstop, hends⟩ := findBody_visible hbody
  rw [scanVariables?, hstop, if_pos (Text.isBoundary_byteLength visible hidden),
    scanVariables_variablePattern, Text.takeBytes_byteLength, variableScan_eq_filterMap,
    ofLine?_linesBetween hends]

/-- Declarations in several cases, one of them twice and one with the long s, beside a line that
    starts with another word, a declaration without a name, and one after the body. -/
def mixedLines : List Char :=
  "Function A()\n\tlocal a, b\nSTATIC \t x := 1\n\tlocal a\nx Local y\nLocal\n".toList ++
    "\u017Ftatic z\nReturn Local r\nLocal late\n".toList

theorem scanVariables_bodyLines_mixed :
    ∃ rule, compileRule .vars (some defaultVariableRule) = .ok (some rule) ∧
      findBody mixedLines 0 12 none = some ⟨0, 12, 91⟩ ∧
      scanVariables? rule mixedLines 12 91 =
        some [⟨"local", "a"⟩, ⟨"STATIC", "x"⟩, ⟨"local", "a"⟩, ⟨"\u017Ftatic", "z"⟩] := by
  obtain ⟨rule, hrule, -, hscan⟩ := scanVariables_bodyLines
  have hbody : findBody mixedLines 0 12 none = some ⟨0, 12, 91⟩ := by decide
  exact ⟨rule, hrule, hbody, (hscan _ _ _ _ _ hbody).trans (by decide)⟩

end ProgramOutline
