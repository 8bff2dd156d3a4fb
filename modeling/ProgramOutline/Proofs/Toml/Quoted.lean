import ProgramOutline.Proofs.Text.Digits
import ProgramOutline.Toml.Text

/-!
# Quoted text is read back

The writer chooses between four forms of quotes by what a text holds. Each form has an inside of its
own, with or without escapes, and a reader of its own. In triple quotes the reader ends at the first
three quotes in a row, so a text must not have as many, unless one of them is escaped; up to two
quotes at the end of a text stand together with the closing ones.

Results:
* `readBasic_escapeLine`, `readLiteral_plain`: the inside of a text on one line.
* `readBasicLines_escapeLines`, `readLiteralLines_plain`: the inside of a text in triple quotes.
* `readQuoted?_encode`: a text in quotes is read back, whatever its form.
-/

namespace ProgramOutline.Toml

/-! ## Escapes -/

@[simp]
theorem before_some (c : Char) (text rest : List Char) :
    before (some c) (some (text, rest)) = some (c :: text, rest) := rfl

theorem codeChar?_hexDigits {c : Char} (h : c.toNat < 16 ^ 4) :
    codeChar? (Text.hexDigits 'A' 4 c.toNat) = some c := by
  have hvalid : c.toNat.isValidChar := c.valid
  rw [codeChar?, Text.hexNumber?_hexDigits (.inr rfl) (by decide) h, Option.bind_some,
    if_pos hvalid, Char.ofNat_toNat]

/-- An escape is a letter that stands for the character, or else four digits. -/
theorem escapeChar_spelled (c : Char) :
    (∃ letter, escapeChar c = ['\\', letter] ∧ simpleEscape? letter = some c) ∨
      escapeChar c = '\\' :: 'u' :: Text.hexDigits 'A' 4 c.toNat := by
  unfold escapeChar
  split
  case h_8 => exact .inr rfl
  all_goals exact .inl ⟨_, rfl, rfl⟩

/-- The digits are the code of the character. -/
theorem escapeChar_cases {c : Char} (h : needsEscape c = true) :
    (∃ letter, escapeChar c = ['\\', letter] ∧ simpleEscape? letter = some c) ∨
      ∃ a b d e, escapeChar c = ['\\', 'u', a, b, d, e] ∧ codeChar? [a, b, d, e] = some c := by
  have hsmall : c.toNat < 16 ^ 4 := by
    simp only [needsEscape, Bool.or_eq_true, decide_eq_true_eq, beq_iff_eq] at h
    rcases h with ((h | rfl) | rfl) | h
    · omega
    · decide
    · decide
    · omega
  rcases escapeChar_spelled c with hletter | hcode
  · exact .inl hletter
  · exact .inr ⟨_, _, _, _, hcode, codeChar?_hexDigits hsmall⟩

theorem readBasic_simpleEscape {letter c : Char} (h : simpleEscape? letter = some c)
    (rest : List Char) :
    readBasic ('\\' :: letter :: rest) = before (some c) (readBasic rest) := by
  unfold simpleEscape? at h
  split at h
  case h_8 => cases h
  all_goals
    cases h
    rfl

theorem readBasic_escapeChar {c : Char} (h : needsEscape c = true) (rest : List Char) :
    readBasic (escapeChar c ++ rest) = before (some c) (readBasic rest) := by
  rcases escapeChar_cases h with ⟨letter, heq, hread⟩ | ⟨a, b, d, e, heq, hread⟩
  · rw [heq]
    exact readBasic_simpleEscape hread rest
  · rw [heq]
    exact congrArg (before · (readBasic rest)) hread

theorem isPlain_of_needsEscape {c : Char} (h : needsEscape c = false) :
    isPlain c = true ∧ c ≠ '"' ∧ c ≠ '\\' := by
  simp only [needsEscape, Bool.or_eq_false_iff, decide_eq_false_iff_not, beq_eq_false_iff_ne] at h
  obtain ⟨⟨⟨hsmall, hquote⟩, hslash⟩, hdelete⟩ := h
  refine ⟨?_, hquote, hslash⟩
  simp [isPlain, hdelete]
  omega

theorem readBasic_plain {c : Char} (h : needsEscape c = false) (rest : List Char) :
    readBasic (c :: rest) = before (some c) (readBasic rest) := by
  obtain ⟨hplain, hquote, hslash⟩ := isPlain_of_needsEscape h
  rw [readBasic]
  all_goals simp_all

/-- What stands between the quotes of a basic text is read back. -/
theorem readBasic_escapeLine (text rest : List Char) :
    readBasic (escapeLine text ++ '"' :: rest) = some (text, rest) := by
  induction text with
  | nil => rfl
  | cons c text ih =>
    rw [escapeLine, List.flatMap_cons, List.append_assoc]
    split
    · rename_i h
      rw [readBasic_escapeChar h, ← escapeLine, ih, before_some]
    · rename_i h
      rw [List.singleton_append, readBasic_plain (by simpa using h), ← escapeLine, ih, before_some]

/-! ## Literal text -/

theorem isPlain_of_isControl {c : Char} (h : isControl c = false) (hline : c ≠ '\n') :
    isPlain c = true := by
  by_cases htab : c = '\t'
  · simp [isPlain, htab]
  · simp only [isControl, Bool.or_eq_false_iff, Bool.and_eq_false_iff, decide_eq_false_iff_not,
      bne_eq_false_iff_eq, htab, hline, or_false, beq_eq_false_iff_ne] at h
    obtain ⟨hsmall, hdelete⟩ := h
    simp [isPlain, hdelete]
    omega

theorem readLiteral_plain {text : List Char} (hplain : ∀ c ∈ text, isPlain c = true ∧ c ≠ '\'')
    (rest : List Char) : readLiteral (text ++ '\'' :: rest) = some (text, rest) := by
  induction text with
  | nil => rfl
  | cons c text ih =>
    obtain ⟨hc, hquote⟩ := hplain c List.mem_cons_self
    have hrest := ih (fun d hd => hplain d (List.mem_cons_of_mem c hd))
    rw [List.cons_append, readLiteral]
    · rw [if_pos hc, hrest, before_some]
    · exact hquote

/-! ## Text in triple quotes -/

/-- The closing quotes, with up to two quotes of the text before them. -/
theorem closingQuotes_append {quote : Char} {quotes : List Char}
    (h : quotes = [] ∨ quotes = [quote] ∨ quotes = [quote, quote]) {c : Char} (hc : c ≠ quote)
    (rest : List Char) : closingQuotes quote (quotes ++ c :: rest) = (quotes, c :: rest) := by
  rcases h with rfl | rfl | rfl
  · cases rest with
    | nil => simp [closingQuotes, hc]
    | cons d rest => simp [closingQuotes, hc]
  · simp [closingQuotes, hc]
  · simp [closingQuotes]

theorem readBasicLines_simpleEscape {letter c : Char} (h : simpleEscape? letter = some c)
    (rest : List Char) :
    readBasicLines false ('\\' :: letter :: rest) =
      before (some c) (readBasicLines false rest) := by
  unfold simpleEscape? at h
  split at h
  case h_8 => cases h
  all_goals
    cases h
    rfl

theorem readBasicLines_escapeChar {c : Char} (h : needsEscape c = true) (rest : List Char) :
    readBasicLines false (escapeChar c ++ rest) =
      before (some c) (readBasicLines false rest) := by
  rcases escapeChar_cases h with ⟨letter, heq, hread⟩ | ⟨a, b, d, e, heq, hread⟩
  · rw [heq]
    exact readBasicLines_simpleEscape hread rest
  · rw [heq]
    exact congrArg (before · (readBasicLines false rest)) hread

theorem readBasicLines_plain {c : Char} (h : needsEscape c = false ∨ c = '\n') (rest : List Char) :
    readBasicLines false (c :: rest) = before (some c) (readBasicLines false rest) := by
  rcases h with h | rfl
  · obtain ⟨hplain, hquote, hslash⟩ := isPlain_of_needsEscape h
    have hreturn : c ≠ '\r' := by
      rintro rfl
      cases h
    rw [readBasicLines]
    all_goals simp_all
  · rfl

/-- A quote that is not the first of three is read as it is. -/
theorem readBasicLines_quote {rest : List Char} (h : ∀ after, rest ≠ '"' :: '"' :: after) :
    readBasicLines false ('"' :: rest) = before (some '"') (readBasicLines false rest) := by
  rw [readBasicLines]
  · simp [isPlain]
  all_goals simp_all

theorem escapeChar_eq_cons (c : Char) : ∃ tail, escapeChar c = '\\' :: tail := by
  rcases escapeChar_spelled c with ⟨letter, hletter, -⟩ | hcode
  · exact ⟨_, hletter⟩
  · exact ⟨_, hcode⟩

theorem escapeLines_cons (quotes : Nat) (c : Char) (rest : List Char) :
    escapeLines quotes (c :: rest) =
      if c = '"' then
        if quotes = 2 then '\\' :: '"' :: escapeLines 0 rest
        else '"' :: escapeLines (quotes + 1) rest
      else if c = '\n' then '\n' :: escapeLines 0 rest
      else if needsEscape c then escapeChar c ++ escapeLines 0 rest
      else c :: escapeLines 0 rest := rfl

/-- Unless it writes a quote, an encoded text does not start with one. -/
theorem escapeLines_cons_head {quotes : Nat} {c : Char} (h : c ≠ '"' ∨ quotes = 2)
    (text : List Char) : ∃ d tail, escapeLines quotes (c :: text) = d :: tail ∧ d ≠ '"' := by
  rw [escapeLines_cons]
  split_ifs with hquote htwo hline hescape
  · exact ⟨_, _, rfl, by decide⟩
  · exact absurd (h.resolve_left (not_not_intro hquote)) htwo
  · exact ⟨_, _, rfl, by decide⟩
  · obtain ⟨tail, htail⟩ := escapeChar_eq_cons c
    rw [htail]
    exact ⟨_, _, rfl, by decide⟩
  · exact ⟨_, _, rfl, hquote⟩

/-- No two quotes follow a quote of the text, unless it is one of those at the end. -/
theorem escapeLines_not_two {quotes : Nat} (hquotes : quotes < 2) {text : List Char}
    (hnil : text ≠ []) (hone : ¬ (quotes = 0 ∧ text = ['"'])) (rest after : List Char) :
    escapeLines (quotes + 1) text ++ '"' :: rest ≠ '"' :: '"' :: after := by
  intro heq
  cases text with
  | nil => exact hnil rfl
  | cons c text =>
    by_cases hhead : c ≠ '"' ∨ quotes + 1 = 2
    · obtain ⟨d, tail, hencoded, hd⟩ := escapeLines_cons_head hhead text
      rw [hencoded] at heq
      exact hd (List.cons.inj heq).1
    · obtain ⟨rfl, hzero⟩ : c = '"' ∧ quotes = 0 := by
        simp only [not_or, not_not] at hhead
        exact ⟨hhead.1, by omega⟩
      cases text with
      | nil => exact hone ⟨hzero, rfl⟩
      | cons e text =>
        obtain ⟨d, tail, hencoded, hd⟩ := escapeLines_cons_head (.inr rfl : e ≠ '"' ∨ 2 = 2) text
        rw [hzero, escapeLines_cons, if_pos rfl, if_neg (by decide), hencoded] at heq
        exact hd (List.cons.inj (List.cons.inj heq).2).1

theorem readBasicLines_close (rest : List Char) :
    readBasicLines false ('"' :: '"' :: '"' :: rest) = some (closingQuotes '"' rest) := rfl

/-- What stands between triple quotes of a basic text is read back. -/
theorem readBasicLines_escapeLines {quotes : Nat} (hquotes : quotes ≤ 2) (text rest : List Char) :
    readBasicLines false (escapeLines quotes text ++ '"' :: '"' :: '"' :: '\n' :: rest) =
      some (text, '\n' :: rest) := by
  have hend : ∀ run, run = [] ∨ run = ['"'] ∨ run = ['"', '"'] →
      readBasicLines false ('"' :: '"' :: '"' :: (run ++ '\n' :: rest)) =
        some (run, '\n' :: rest) := by
    intro run hrun
    rw [readBasicLines_close, closingQuotes_append hrun (by decide)]
  induction text generalizing quotes with
  | nil => exact hend [] (.inl rfl)
  | cons c text ih =>
    rw [escapeLines_cons]
    split_ifs with hquote htwo hline hescape
    · -- the third quote in a row is escaped
      rw [List.cons_append, List.cons_append, readBasicLines_simpleEscape rfl, ih (Nat.zero_le 2),
        before_some, hquote]
    · subst hquote
      -- quotes at the end of the text stand together with the closing ones
      by_cases hnil : text = []
      · rw [hnil]
        exact hend ['"'] (.inr (.inl rfl))
      · by_cases hone : quotes = 0 ∧ text = ['"']
        · obtain ⟨rfl, rfl⟩ := hone
          exact hend ['"', '"'] (.inr (.inr rfl))
        · have hlt : quotes < 2 := by omega
          rw [List.cons_append,
            readBasicLines_quote (escapeLines_not_two hlt hnil hone _), ih (by omega), before_some]
    · rw [List.cons_append, readBasicLines_plain (.inr rfl), ih (Nat.zero_le 2), before_some, hline]
    · rw [List.append_assoc, readBasicLines_escapeChar hescape, ih (Nat.zero_le 2), before_some]
    · rw [List.cons_append, readBasicLines_plain (.inl (by simpa using hescape)),
        ih (Nat.zero_le 2), before_some]

/-! ## Literal text in triple quotes -/

theorem le_longestRun (quote : Char) (current : Nat) (text : List Char) :
    current ≤ longestRun quote current text := by
  induction text generalizing current with
  | nil => exact Nat.le_refl current
  | cons c rest ih =>
    rw [longestRun]
    split
    · exact Nat.le_of_succ_le (ih (current + 1))
    · exact Nat.le_max_left ..

/-- A character is read as it is, unless three quotes start with it. -/
theorem readLiteralLines_char {c : Char} (hc : isControl c = false) {rest : List Char}
    (h : c = '\'' → ∀ after, rest ≠ '\'' :: '\'' :: after) :
    readLiteralLines (c :: rest) = before (some c) (readLiteralLines rest) := by
  have hreturn : c ≠ '\r' := by
    rintro rfl
    cases hc
  have hplain : (isPlain c || c == '\n') = true := by
    by_cases hline : c = '\n'
    · simp [hline]
    · simp [isPlain_of_isControl hc hline]
  rw [readLiteralLines]
  all_goals simp_all

theorem readLiteralLines_close (rest : List Char) :
    readLiteralLines ('\'' :: '\'' :: '\'' :: rest) = some (closingQuotes '\'' rest) := rfl

/-- What stands between triple quotes of a literal text is read back. -/
theorem readLiteralLines_plain {text : List Char} {quotes : Nat}
    (hplain : ∀ c ∈ text, isControl c = false) (hrun : longestRun '\'' quotes text < 3)
    (rest : List Char) :
    readLiteralLines (text ++ '\'' :: '\'' :: '\'' :: '\n' :: rest) =
      some (text, '\n' :: rest) := by
  have hend : ∀ run, run = [] ∨ run = ['\''] ∨ run = ['\'', '\''] →
      readLiteralLines ('\'' :: '\'' :: '\'' :: (run ++ '\n' :: rest)) =
        some (run, '\n' :: rest) := by
    intro run hrun
    rw [readLiteralLines_close, closingQuotes_append hrun (by decide)]
  induction text generalizing quotes with
  | nil => exact hend [] (.inl rfl)
  | cons c text ih =>
    have hc := hplain c List.mem_cons_self
    have htext : ∀ d ∈ text, isControl d = false := fun d hd => hplain d (List.mem_cons_of_mem c hd)
    by_cases hquote : c = '\''
    · subst hquote
      rw [longestRun, if_pos rfl] at hrun
      by_cases hnil : text = []
      · rw [hnil]
        exact hend ['\''] (.inr (.inl rfl))
      · by_cases hone : text = ['\'']
        · rw [hone]
          exact hend ['\'', '\''] (.inr (.inr rfl))
        · rw [List.cons_append, readLiteralLines_char hc, ih htext hrun, before_some]
          -- three quotes in a row would be too many
          intro _ after heq
          match text with
          | [] => exact hnil rfl
          | [d] => exact hone (by rw [(List.cons.inj heq).1])
          | d :: e :: text =>
            obtain ⟨rfl, hnext⟩ := List.cons.inj heq
            obtain ⟨rfl, -⟩ := List.cons.inj hnext
            rw [longestRun, if_pos rfl, longestRun, if_pos rfl] at hrun
            have := le_longestRun '\'' (quotes + 1 + 1 + 1) text
            omega
    · rw [longestRun, if_neg hquote] at hrun
      rw [List.cons_append, readLiteralLines_char hc (fun h => absurd h hquote),
        ih htext (Nat.lt_of_le_of_lt (Nat.le_max_right ..) hrun), before_some]

/-! ## All forms -/

theorem of_formOf_literal {text : List Char} (h : formOf text = .literal) :
    ∀ c ∈ text, isPlain c = true ∧ c ≠ '\'' := by
  unfold formOf at h
  dsimp only at h
  split_ifs at h with hbasic hliteral
  simp only [Bool.and_eq_true, Bool.not_eq_true', List.any_eq_false, Bool.not_eq_true,
    List.contains_eq_mem, decide_eq_false_iff_not] at hliteral
  obtain ⟨⟨hplain, hlines⟩, hquote⟩ := hliteral
  intro c hc
  refine ⟨isPlain_of_isControl (hplain c hc) ?_, ?_⟩
  · rintro rfl
    exact hlines hc
  · rintro rfl
    exact hquote hc

theorem of_formOf_literalLines {text : List Char} (h : formOf text = .literalLines) :
    (∀ c ∈ text, isControl c = false) ∧ longestRun '\'' 0 text < 3 := by
  unfold formOf at h
  dsimp only at h
  split_ifs at h with hbasic hliteral hbasicLines hliteralLines
  simpa using hliteralLines

/-- A line break is put before a text that has some, and does not count when it is read. -/
theorem dropLineBreak_lead {text body : List Char}
    (h : '\n' ∉ text → ∀ c ∈ body.head?, c ≠ '\n' ∧ c ≠ '\r') :
    dropLineBreak ((if text.contains '\n' then ['\n'] else []) ++ body) = body := by
  by_cases hlines : '\n' ∈ text
  · simp [hlines, dropLineBreak]
  · have hhead := h hlines
    cases body with
    | nil => simp [hlines, dropLineBreak]
    | cons c body =>
      obtain ⟨hline, hreturn⟩ := hhead c rfl
      simp only [List.contains_eq_mem, hlines, decide_false, Bool.false_eq_true, if_false,
        List.nil_append]
      rw [dropLineBreak]
      all_goals simp_all

/-- A quote that is not the first of three opens a text on one line. -/
theorem readQuoted?_line {quote : Char} {rest : List Char}
    (h : ∀ after, rest ≠ quote :: quote :: after) :
    readQuoted? (quote :: rest) = readLine? (quote :: rest) := by
  rw [readQuoted?]
  all_goals
    intro after heq
    obtain ⟨rfl, hrest⟩ := List.cons.inj heq
    exact h after hrest

theorem readQuoted?_basic {rest : List Char} (h : ∀ after, rest ≠ '"' :: '"' :: after) :
    readQuoted? ('"' :: rest) = readBasic rest := readQuoted?_line h

theorem readQuoted?_literal {rest : List Char} (h : ∀ after, rest ≠ '\'' :: '\'' :: after) :
    readQuoted? ('\'' :: rest) = readLiteral rest := readQuoted?_line h

theorem readQuoted?_basicLines (rest : List Char) :
    readQuoted? ('"' :: '"' :: '"' :: rest) = readBasicLines false (dropLineBreak rest) := rfl

theorem readQuoted?_literalLines (rest : List Char) :
    readQuoted? ('\'' :: '\'' :: '\'' :: rest) = readLiteralLines (dropLineBreak rest) := rfl

theorem escapeLine_not_two (text rest after : List Char) :
    escapeLine text ++ '"' :: '\n' :: rest ≠ '"' :: '"' :: after := by
  cases text with
  | nil => simp [escapeLine]
  | cons c text =>
    rw [escapeLine, List.flatMap_cons]
    split
    · obtain ⟨tail, htail⟩ := escapeChar_eq_cons c
      simp [htail]
    · rename_i h
      obtain ⟨-, hquote, -⟩ := isPlain_of_needsEscape (by simpa using h)
      simp [hquote]

theorem escapeLines_head {text : List Char} (hlines : '\n' ∉ text) (rest : List Char) :
    ∀ c ∈ (escapeLines 0 text ++ '"' :: rest).head?, c ≠ '\n' ∧ c ≠ '\r' := by
  cases text with
  | nil => simp [escapeLines]
  | cons d text =>
    rw [escapeLines_cons]
    split_ifs with hquote htwo hline hescape
    · simp
    · simp
    · exact absurd (by simp [hline]) hlines
    · obtain ⟨tail, htail⟩ := escapeChar_eq_cons d
      simp [htail]
    · have hreturn : d ≠ '\r' := by
        rintro rfl
        exact hescape rfl
      simp [hline, hreturn]

/-- **Quoted text is read back**, whatever its form, up to the end of the line. -/
theorem readQuoted?_encode (text rest : List Char) :
    readQuoted? (encode text ++ '\n' :: rest) = some (text, '\n' :: rest) := by
  unfold encode
  dsimp only
  split
  · rw [List.cons_append, List.append_assoc, List.singleton_append,
      readQuoted?_basic (escapeLine_not_two text rest), readBasic_escapeLine]
  · rename_i hform
    have hplain := of_formOf_literal hform
    rw [List.cons_append, List.append_assoc, List.singleton_append, readQuoted?_literal,
      readLiteral_plain hplain]
    intro after heq
    cases text with
    | nil => simp at heq
    | cons c text => exact (hplain c List.mem_cons_self).2 (List.cons.inj heq).1
  · simp only [List.append_assoc, List.cons_append, List.nil_append]
    rw [readQuoted?_basicLines, dropLineBreak_lead (fun hlines => escapeLines_head hlines _),
      readBasicLines_escapeLines (Nat.zero_le 2)]
  · rename_i hform
    obtain ⟨hplain, hrun⟩ := of_formOf_literalLines hform
    simp only [List.append_assoc, List.cons_append, List.nil_append]
    rw [readQuoted?_literalLines, dropLineBreak_lead, readLiteralLines_plain hplain hrun]
    intro hlines
    cases text with
    | nil => simp
    | cons d text =>
      have hline : d ≠ '\n' := by
        rintro rfl
        exact hlines List.mem_cons_self
      have hreturn : d ≠ '\r' := by
        rintro rfl
        exact absurd (hplain '\r' List.mem_cons_self) (by decide)
      simp [hline, hreturn]

end ProgramOutline.Toml
