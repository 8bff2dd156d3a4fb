import ProgramOutline.Proofs.Grammar.Header
import ProgramOutline.Proofs.Grammar.Return
import ProgramOutline.Proofs.Grammar.Variable

/-!
# Reading from a text that ends a line

A line feed is no part of a word, a run or a sign, so what a reader finds in a text that ends a line
does not depend on what comes after the text. Only the parameters of a header go on over line feeds;
they end in the same text if every parenthesis in it is closed.

Results:
* `word?_append`, `run?_append`, `sign?_append`: the readers of parts.
* `HeaderLine.reader_local`, `ReturnLine.reader_local`: header lines and return lines.
* `variableLine?_append`: variable lines.
-/

namespace ProgramOutline.Grammar

open Unicode

/-- The text ends with a line feed. -/
def EndsLine (text : List Char) : Prop := text.getLast? = some '\n'

/-- Every opening parenthesis is followed by a closing one somewhere in the text. -/
def Closes (text : List Char) : Prop := ∀ after, '(' :: after <:+ text → ')' ∈ after

instance (text : List Char) : Decidable (EndsLine text) :=
  inferInstanceAs (Decidable (text.getLast? = some '\n'))

theorem closes_iff (text : List Char) :
    Closes text ↔ ∀ s ∈ text.tails, s.head? = some '(' → ')' ∈ s.tail := by
  constructor
  · intro h s hs hhead
    obtain ⟨rest, rfl⟩ := List.head?_eq_some_iff.mp hhead
    exact h rest ((List.mem_tails _ _).mp hs)
  · intro h after hafter
    exact h ('(' :: after) ((List.mem_tails _ _).mpr hafter) rfl

instance (text : List Char) : Decidable (Closes text) :=
  decidable_of_iff _ (closes_iff text).symm

theorem EndsLine.ne_nil {text : List Char} (h : EndsLine text) : text ≠ [] := by
  rintro rfl
  cases h

theorem EndsLine.mem {text : List Char} (h : EndsLine text) : '\n' ∈ text :=
  List.mem_of_getLast? h

theorem EndsLine.of_suffix {s text : List Char} (h : EndsLine text) (hs : s <:+ text)
    (hne : s ≠ []) : EndsLine s := by
  obtain ⟨before, rfl⟩ := hs
  obtain ⟨c, hc⟩ := Option.isSome_iff_exists.mp (List.getLast?_isSome.mpr hne)
  unfold EndsLine at h ⊢
  rw [List.getLast?_append, hc, Option.some_or] at h
  rw [hc, h]

/-- The text after a part without line feeds still ends a line. -/
theorem EndsLine.rest {text taken rest : List Char} (h : EndsLine text)
    (hsplit : text = taken ++ rest) (htaken : ∀ c ∈ taken, c ≠ '\n') : EndsLine rest := by
  apply h.of_suffix ⟨taken, hsplit.symm⟩
  rintro rfl
  rw [List.append_nil] at hsplit
  exact htaken '\n' (hsplit ▸ h.mem) rfl

theorem Closes.of_suffix {s text : List Char} (h : Closes text) (hs : s <:+ text) : Closes s :=
  fun after hafter => h after (hafter.trans hs)

/-! ## Parts -/

theorem ne_break_of_isBlank {c : Char} (h : Text.isBlank c = false) : c ≠ '\n' := by
  rintro rfl
  exact absurd h (by decide)

theorem isGap_break : isGap '\n' = false := by decide

theorem isWord_break : isWord '\n' = false := by decide

section Runs

variable {p : Char → Bool} {s : List Char} {c : Char}

theorem takeWhile_append_of_mem (hc : c ∈ s) (hp : p c = false) (u : List Char) :
    (s ++ u).takeWhile p = s.takeWhile p := by
  induction s with
  | nil => cases hc
  | cons d s ih =>
    rw [List.cons_append, List.takeWhile_cons, List.takeWhile_cons]
    split
    · rename_i hd
      rcases List.mem_cons.mp hc with rfl | hc
      · rw [hp] at hd
        cases hd
      · rw [ih hc]
    · rfl

theorem dropWhile_append_of_mem (hc : c ∈ s) (hp : p c = false) (u : List Char) :
    (s ++ u).dropWhile p = s.dropWhile p ++ u := by
  induction s with
  | nil => cases hc
  | cons d s ih =>
    rw [List.cons_append, List.dropWhile_cons, List.dropWhile_cons]
    split
    · rename_i hd
      rcases List.mem_cons.mp hc with rfl | hc
      · rw [hp] at hd
        cases hd
      · exact ih hc
    · rfl

theorem run?_append (hline : EndsLine s) (hp : p '\n' = false) (u : List Char) :
    run? p (s ++ u) = (run? p s).map (fun found => (found.1, found.2 ++ u)) := by
  rw [run?, run?, takeWhile_append_of_mem hline.mem hp, dropWhile_append_of_mem hline.mem hp]
  split <;> rfl

theorem EndsLine.dropWhile (hline : EndsLine s) (hp : p '\n' = false) :
    EndsLine (s.dropWhile p) := by
  apply hline.rest List.takeWhile_append_dropWhile.symm
  rintro c hc rfl
  rw [List.mem_takeWhile_imp hc] at hp
  cases hp

theorem EndsLine.run? (hline : EndsLine s) (hp : p '\n' = false) {taken rest : List Char}
    (h : run? p s = some (taken, rest)) : EndsLine rest := by
  obtain ⟨-, rfl, -⟩ := run?_eq_some h
  exact hline.dropWhile hp

end Runs

theorem word?_append {word : List Char} (hword : ∀ k ∈ word, IsLetter k) {s : List Char}
    (hline : EndsLine s) (u : List Char) :
    word? word (s ++ u) = (word? word s).map (fun found => (found.1, found.2 ++ u)) := by
  induction word generalizing s with
  | nil => rfl
  | cons k word ih =>
    cases s with
    | nil => exact absurd rfl hline.ne_nil
    | cons c s =>
      rw [List.cons_append, word?_cons, word?_cons]
      by_cases hc : sameCase k c = true
      · have hne : c ≠ '\n' := ne_break_of_isBlank (isBlank_of_sameCase (hword k (by simp)) hc)
        have hrest : EndsLine s := by
          have hsplit : c :: s = [c] ++ s := rfl
          apply hline.rest hsplit
          simpa using hne
        rw [if_pos hc, if_pos hc, ih (fun k hk => hword k (by simp [hk])) hrest, Option.map_map,
          Option.map_map]
        rfl
      · rw [if_neg hc, if_neg hc]
        rfl

theorem EndsLine.word? {word s taken rest : List Char} (hline : EndsLine s)
    (hword : ∀ k ∈ word, IsLetter k) (h : word? word s = some (taken, rest)) : EndsLine rest :=
  hline.rest (word?_split h) (fun _ hc => ne_break_of_isBlank (isBlank_of_word? hword h hc))

theorem sign?_append (sign : Char) {s : List Char} (hne : s ≠ []) (u : List Char) :
    sign? sign (s ++ u) = (sign? sign s).map (· ++ u) := by
  cases s with
  | nil => exact absurd rfl hne
  | cons c s =>
    rw [List.cons_append, sign?, sign?]
    split <;> rfl

theorem oneOf?_append {words : List (List Char)}
    (hwords : ∀ word ∈ words, ∀ k ∈ word, IsLetter k) {s : List Char} (hline : EndsLine s)
    (u : List Char) :
    oneOf? words (s ++ u) = (oneOf? words s).map (fun found => (found.1, found.2 ++ u)) := by
  induction words with
  | nil => rfl
  | cons word words ih =>
    rw [oneOf?_cons, oneOf?_cons, word?_append (hwords word (by simp)) hline,
      ih (fun word hword => hwords word (by simp [hword]))]
    cases word? word s <;> rfl

/-! ## Header lines -/

theorem signature?_append {s : List Char} (hline : EndsLine s) (hcloses : Closes s)
    (u : List Char) :
    signature? (s ++ u) = (signature? s).map (fun found => (found.1, found.2 ++ u)) := by
  simp only [signature?, Option.bind_eq_bind]
  rw [word?_append functionWord_letters hline]
  rcases hkeyword : word? functionWord s with - | ⟨keyword, text₁⟩
  · rfl
  have hline₁ := hline.word? functionWord_letters hkeyword
  simp only [Option.map_some, Option.bind_some]
  rw [run?_append hline₁ isGap_break]
  rcases hgap : run? isGap text₁ with - | ⟨gap, text₂⟩
  · rfl
  have hline₂ := hline₁.run? isGap_break hgap
  simp only [Option.map_some, Option.bind_some]
  rw [run?_append hline₂ isWord_break]
  rcases hname : run? isWord text₂ with - | ⟨name, text₃⟩
  · rfl
  have hline₃ := hline₂.run? isWord_break hname
  simp only [Option.map_some, Option.bind_some]
  rw [takeWhile_append_of_mem hline₃.mem isGap_break,
    dropWhile_append_of_mem hline₃.mem isGap_break,
    sign?_append '(' (hline₃.dropWhile isGap_break).ne_nil]
  rcases hopen : sign? '(' (text₃.dropWhile isGap) with - | text₄
  · rfl
  -- the parenthesis stands in the text, so the one that closes it does too
  have hsuffix : '(' :: text₄ <:+ s := by
    rw [← sign?_eq_some_iff.mp hopen]
    refine (List.dropWhile_suffix isGap).trans ?_
    exact ⟨keyword ++ (gap ++ name), by
      rw [word?_split hkeyword, run?_split hgap, run?_split hname]
      simp only [List.append_assoc]⟩
  have hclose := hcloses text₄ hsuffix
  have hstop : (')' != ')') = false := by decide
  have hrest : text₄.dropWhile (· != ')') ≠ [] := by
    intro hnil
    have hall := List.dropWhile_eq_nil_iff.mp hnil ')' hclose
    rw [hstop] at hall
    cases hall
  simp only [Option.map_some, Option.bind_some]
  rw [takeWhile_append_of_mem (p := (· != ')')) hclose hstop,
    dropWhile_append_of_mem (p := (· != ')')) hclose hstop, sign?_append ')' hrest]
  cases sign? ')' (text₄.dropWhile (· != ')')) <;> rfl

theorem qualifier?_append {s : List Char} (hline : EndsLine s) (u : List Char) :
    qualifier? (s ++ u) = (qualifier? s).map (fun found => (found.1, found.2 ++ u)) := by
  simp only [qualifier?, Option.bind_eq_bind]
  rw [oneOf?_append qualifiers_letters hline]
  rcases hword : oneOf? qualifiers s with - | ⟨taken, text₁⟩
  · rfl
  obtain ⟨word, hmem, hword⟩ := oneOf?_eq_some hword
  have hline₁ := hline.word? (qualifiers_letters word hmem) hword
  simp only [Option.map_some, Option.bind_some]
  rw [run?_append hline₁ isGap_break]
  cases run? isGap text₁ <;> rfl

theorem optionalQualifier_append {s : List Char} (hline : EndsLine s) (u : List Char) :
    optionalQualifier (s ++ u) = ((optionalQualifier s).1, (optionalQualifier s).2 ++ u) := by
  rw [optionalQualifier, optionalQualifier, qualifier?_append hline]
  cases qualifier? s <;> rfl

theorem EndsLine.optionalQualifier {s : List Char} (hline : EndsLine s) :
    EndsLine (optionalQualifier s).2 := by
  unfold Grammar.optionalQualifier
  split
  · rename_i q rest h
    obtain ⟨word, hmem, text₁, hword, hgap⟩ := qualifier?_eq_some h
    exact (hline.word? (qualifiers_letters word hmem) hword).run? isGap_break hgap
  · exact hline

theorem headerLine?_append {s : List Char} (hline : EndsLine s) (hcloses : Closes s)
    (u : List Char) :
    headerLine? (s ++ u) = (headerLine? s).map (fun found => (found.1, found.2 ++ u)) := by
  have hdrop := hline.dropWhile isGap_break
  have hsuffix : (optionalQualifier (s.dropWhile isGap)).2 <:+ s := by
    refine List.IsSuffix.trans ⟨_, (optionalQualifier_split (s.dropWhile isGap)).symm⟩ ?_
    exact List.dropWhile_suffix isGap
  simp only [headerLine?, Option.bind_eq_bind]
  rw [takeWhile_append_of_mem hline.mem isGap_break, dropWhile_append_of_mem hline.mem isGap_break,
    optionalQualifier_append hdrop]
  dsimp only
  rw [signature?_append hdrop.optionalQualifier (hcloses.of_suffix hsuffix)]
  cases signature? (optionalQualifier (s.dropWhile isGap)).2 <;> rfl

theorem HeaderLine.reader_local {text : List Char} (hline : EndsLine text) (hcloses : Closes text)
    (u : List Char) : HeaderLine.reader.Local text u := by
  intro s hs hne
  exact headerLine?_append (hline.of_suffix hs hne) (hcloses.of_suffix hs) u

/-! ## Variable lines -/

/-- A variable line that stands in a text that ends a line is the same with more text after it. -/
theorem variableLine?_append {s : List Char} (hline : EndsLine s) (u : List Char) :
    variableLine? (s ++ u) = (variableLine? s).map (fun found => (found.1, found.2 ++ u)) := by
  have hdrop := hline.dropWhile isGap_break
  simp only [variableLine?, Option.bind_eq_bind]
  rw [takeWhile_append_of_mem hline.mem isGap_break, dropWhile_append_of_mem hline.mem isGap_break,
    oneOf?_append scopes_letters hdrop]
  rcases hscope : oneOf? scopes (s.dropWhile isGap) with - | ⟨scope, text₁⟩
  · rfl
  obtain ⟨word, hmem, hword⟩ := oneOf?_eq_some hscope
  have hline₁ := hdrop.word? (scopes_letters word hmem) hword
  simp only [Option.map_some, Option.bind_some]
  rw [run?_append hline₁ isGap_break]
  rcases hgap : run? isGap text₁ with - | ⟨gap, text₂⟩
  · rfl
  simp only [Option.map_some, Option.bind_some]
  rw [run?_append (hline₁.run? isGap_break hgap) isWord_break]
  cases run? isWord text₂ <;> rfl

/-! ## Return lines -/

/-- The first line of a text ends the text or a line. -/
theorem lineTail_ends (text : List Char) :
    afterLine text = [] ∨ EndsLine (lineTail text) := by
  have hhead := head_dropWhile_break text
  rw [afterLine, lineTail]
  cases hdrop : text.dropWhile (· != '\n') with
  | nil => exact .inl rfl
  | cons c rest =>
    obtain rfl : c = '\n' := hhead c (by simp [hdrop])
    exact .inr (by simp [EndsLine])

theorem lineTail_append {s : List Char} (hline : EndsLine s) (u : List Char) :
    lineTail (s ++ u) = lineTail s := by
  have hstop : ('\n' != '\n') = false := by decide
  rw [lineTail, lineTail, takeWhile_append_of_mem (p := (· != '\n')) hline.mem hstop,
    dropWhile_append_of_mem (p := (· != '\n')) hline.mem hstop]
  cases hdrop : s.dropWhile (· != '\n') with
  | nil =>
    have hall := List.dropWhile_eq_nil_iff.mp hdrop '\n' hline.mem
    rw [hstop] at hall
    cases hall
  | cons c rest => rfl

theorem returnLine?_append {s : List Char} (hline : EndsLine s) (u : List Char) :
    returnLine? (s ++ u) = (returnLine? s).map (fun found => (found.1, found.2 ++ u)) := by
  simp only [returnLine?, Option.bind_eq_bind]
  rw [word?_append returnWord_letters hline]
  rcases hword : word? returnWord s with - | ⟨word, rest⟩
  · rfl
  have hrest := hline.word? returnWord_letters hword
  have hhead : (rest ++ u).head? = rest.head? := List.head?_append_of_ne_nil rest hrest.ne_nil
  simp only [Option.map_some, Option.bind_some]
  rw [hhead, lineTail_append hrest]
  split <;> rfl

theorem ReturnLine.reader_local {text : List Char} (hline : EndsLine text) (u : List Char) :
    ReturnLine.reader.Local text u := by
  intro s hs hne
  exact returnLine?_append (hline.of_suffix hs hne) u

end ProgramOutline.Grammar
