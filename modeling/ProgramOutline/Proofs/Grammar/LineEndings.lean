import ProgramOutline.Proofs.Grammar.Locality
import ProgramOutline.Proofs.Grammar.Variable
import ProgramOutline.Proofs.Text.CarriageReturn

/-!
# Reading a text with carriage returns

A carriage return is no part of a word, a run of gaps or a sign, and neither is a line feed. So where
carriage returns are put before line feeds, the readers find the same words, and only the parameters
of a header and the rest of a return line, which may hold line feeds, change with the text.

Results:
* `LineReader.scan_crlf`: a reader that keeps step with the text finds the same items, moved on.
* `word?_crlf`, `run?_crlf`, `sign?_crlf`: the readers of parts.
* `headerLine?_crlf`, `variableLine?_crlf`, `returnLine?_crlf`: the three line readers.
-/

namespace ProgramOutline

open Text (crlf crlfOffset)

/-! ## Scans -/

/-- The reader reads the same item, changed by `f`, where carriage returns have been put in. -/
def LineReader.KeepsStep {α : Type} (r : LineReader α) (f : α → α) : Prop :=
  ∀ text, r.read? (crlf text) = (r.read? text).map (fun found => (f found.1, crlf found.2))

namespace LineReader.KeepsStep

variable {α : Type} {r : LineReader α} {f : α → α}

theorem taken_eq (h : r.KeepsStep f) {text rest : List Char} {item : α}
    (hread : r.read? text = some (item, rest)) : r.taken (f item) = crlf (r.taken item) := by
  have hcrlf : r.read? (crlf text) = some (f item, crlf rest) := by
    rw [h, hread]
    rfl
  have hsplit : r.taken (f item) ++ crlf rest = crlf (r.taken item) ++ crlf rest := by
    rw [← r.split hcrlf, r.split hread, Text.crlf_append]
  exact List.append_cancel_right hsplit

theorem passes (h : r.KeepsStep f) {position offset position' offset' : Nat} {lineStart : Bool}
    {text : List Char} (hpass : r.Passes position lineStart offset text)
    (hpos : position' ≤ offset' → position ≤ offset) :
    r.Passes position' lineStart offset' (crlf text) := by
  intro hline hle
  rw [h, hpass hline (hpos hle)]
  rfl

/-- Where the scan of a text passes a character, the scan of the text with carriage returns passes
    all that the character has become. -/
theorem scan_cons (h : r.KeepsStep f) {position position' : Nat} {lineStart : Bool}
    {before rest : List Char} {c : Char}
    (hpass : r.Passes position lineStart (Text.byteLength before) (c :: rest))
    (hpos : position' ≤ Text.byteLength (crlf before) → position ≤ Text.byteLength before) :
    r.scan position' lineStart (Text.byteLength (crlf before)) (crlf (c :: rest)) =
      r.scan position' (c == '\n') (Text.byteLength (crlf (before ++ [c]))) (crlf rest) := by
  have hpass' := h.passes hpass hpos
  rw [Text.crlf_append]
  by_cases hc : c = '\n'
  · subst hc
    rw [Text.crlf_cons_break] at hpass' ⊢
    -- between the carriage return and the line feed there is no start of a line
    have hbetween : r.Passes position' ('\r' == '\n')
        (Text.byteLength (crlf before) + '\r'.utf8Size) ('\n' :: crlf rest) :=
      fun hline => absurd hline (by decide)
    rw [r.scan_cons hpass', r.scan_cons hbetween]
    simp [Nat.add_assoc]
  · rw [Text.crlf_cons hc] at hpass' ⊢
    rw [r.scan_cons hpass', Text.crlf_cons hc]
    simp

end LineReader.KeepsStep

/-- A scan of a text with carriage returns finds the items of the text without them, each moved on
    by the line feeds before it. The text `before` stands in front of the scanned one. -/
theorem LineReader.scan_crlf {α : Type} {r : LineReader α} {f : α → α} (h : r.KeepsStep f)
    (position : Nat) (lineStart : Bool) (before text : List Char) :
    r.scan (crlfOffset (before ++ text) position) lineStart (Text.byteLength (crlf before))
        (crlf text) =
      (r.scan position lineStart (Text.byteLength before) text).map (fun found =>
        (crlfOffset (before ++ text) found.1, f found.2)) := by
  generalize hoffset : Text.byteLength before = offset
  induction position, lineStart, offset, text using r.scan_induction generalizing before with
  | item position offset text item rest hpos hread ih =>
    subst hoffset
    have hcrlf : r.read? (crlf text) = some (f item, crlf rest) := by
      rw [h, hread]
      rfl
    have hplace := Text.crlfOffset_byteLength before text
    have hreached : crlfOffset (before ++ text) position ≤ Text.byteLength (crlf before) := by
      rw [← hplace, Text.crlfOffset_le_iff]
      exact hpos
    have hsplit : before ++ text = before ++ r.taken item ++ rest := by
      rw [r.split hread, List.append_assoc]
    have hstop : Text.byteLength (before ++ r.taken item) =
        Text.byteLength before + Text.byteLength (r.taken item) := Text.byteLength_append ..
    -- the scan goes on after the item, which belongs to the text before from then on
    have hrest := ih (before ++ r.taken item) hstop
    have hnext : crlfOffset (before ++ text)
        (Text.byteLength before + Text.byteLength (r.taken item)) =
        Text.byteLength (crlf (before ++ r.taken item)) := by
      rw [hsplit, ← hstop, Text.crlfOffset_byteLength]
    have hcrlfStop : Text.byteLength (crlf before) + Text.byteLength (r.taken (f item)) =
        Text.byteLength (crlf (before ++ r.taken item)) := by
      rw [h.taken_eq hread, Text.crlf_append, Text.byteLength_append]
    rw [← hsplit, hnext] at hrest
    rw [r.scan_of_read hreached hcrlf, r.scan_of_read hpos hread, List.map_cons, hplace, hcrlfStop,
      hrest]
  | pass position lineStart offset c rest hpass ih =>
    subst hoffset
    have hplace := Text.crlfOffset_byteLength before (c :: rest)
    have hreached : crlfOffset (before ++ c :: rest) position ≤ Text.byteLength (crlf before) →
        position ≤ Text.byteLength before := by
      rw [← hplace, Text.crlfOffset_le_iff]
      exact id
    -- the character passed belongs to the text before from then on
    have hrest := ih (before ++ [c]) (by simp)
    rw [List.append_assoc, List.singleton_append] at hrest
    rw [r.scan_cons hpass, h.scan_cons hpass hreached, hrest]
  | done position lineStart offset hpass =>
    rw [r.scan_nil hpass, Text.crlf_nil, r.scan_nil (fun _ _ => r.read?_nil)]
    rfl

namespace Grammar

open Unicode

/-! ## Parts -/

theorem isGap_return : isGap '\r' = false := by decide

theorem isWord_return : isWord '\r' = false := by decide

theorem word?_crlf {word : List Char} (hword : ∀ k ∈ word, IsLetter k) (s : List Char) :
    word? word (crlf s) = (word? word s).map (fun found => (found.1, crlf found.2)) := by
  induction word generalizing s with
  | nil => rfl
  | cons k word ih =>
    cases s with
    | nil => rfl
    | cons c s =>
      have hblank : ∀ d, Text.isBlank d = true → ¬ sameCase k d = true := by
        intro d hd hsame
        rw [isBlank_of_sameCase (hword k (by simp)) hsame] at hd
        cases hd
      by_cases hc : c = '\n'
      · subst hc
        rw [Text.crlf_cons_break, word?_cons, word?_cons, if_neg (hblank '\r' (by decide)),
          if_neg (hblank '\n' (by decide))]
        rfl
      · rw [Text.crlf_cons hc, word?_cons, word?_cons]
        split
        · rw [ih (fun k hk => hword k (by simp [hk])), Option.map_map, Option.map_map]
          rfl
        · rfl

theorem oneOf?_crlf {words : List (List Char)} (hwords : ∀ word ∈ words, ∀ k ∈ word, IsLetter k)
    (s : List Char) :
    oneOf? words (crlf s) = (oneOf? words s).map (fun found => (found.1, crlf found.2)) := by
  induction words with
  | nil => rfl
  | cons word words ih =>
    rw [oneOf?_cons, oneOf?_cons, word?_crlf (hwords word (by simp)),
      ih (fun word hword => hwords word (by simp [hword]))]
    cases word? word s <;> rfl

section Runs

variable {p : Char → Bool} (hreturn : p '\r' = false) (hbreak : p '\n' = false)
include hreturn hbreak

theorem takeWhile_crlf_of_neg (s : List Char) : (crlf s).takeWhile p = s.takeWhile p := by
  rw [Text.takeWhile_crlf (hreturn.trans hbreak.symm)]
  apply Text.crlf_of_notMem
  intro hmem
  rw [List.mem_takeWhile_imp hmem] at hbreak
  cases hbreak

theorem run?_crlf (s : List Char) :
    run? p (crlf s) = (run? p s).map (fun found => (found.1, crlf found.2)) := by
  rw [run?, run?, takeWhile_crlf_of_neg hreturn hbreak,
    Text.dropWhile_crlf (hreturn.trans hbreak.symm)]
  split <;> rfl

end Runs

theorem sign?_crlf {sign : Char} (hreturn : sign ≠ '\r') (hbreak : sign ≠ '\n') (s : List Char) :
    sign? sign (crlf s) = (sign? sign s).map crlf := by
  cases s with
  | nil => rfl
  | cons c s =>
    by_cases hc : c = '\n'
    · subst hc
      rw [Text.crlf_cons_break, sign?, sign?, if_neg hreturn.symm, if_neg hbreak.symm]
      rfl
    · rw [Text.crlf_cons hc, sign?, sign?]
      split <;> rfl

/-! ## Header lines -/

/-- A signature after carriage returns have been put in. -/
def Signature.crlf (s : Signature) : Signature := { s with parameters := Text.crlf s.parameters }

/-- A header line after carriage returns have been put in. -/
def HeaderLine.crlf (line : HeaderLine) : HeaderLine :=
  { line with signature := line.signature.crlf }

theorem signature?_crlf (s : List Char) :
    signature? (crlf s) = (signature? s).map (fun found => (found.1.crlf, crlf found.2)) := by
  simp only [signature?, Option.bind_eq_bind]
  rw [word?_crlf functionWord_letters]
  rcases word? functionWord s with - | ⟨keyword, text₁⟩
  · rfl
  simp only [Option.map_some, Option.bind_some]
  rw [run?_crlf isGap_return isGap_break]
  rcases run? isGap text₁ with - | ⟨gap, text₂⟩
  · rfl
  simp only [Option.map_some, Option.bind_some]
  rw [run?_crlf isWord_return isWord_break]
  rcases run? isWord text₂ with - | ⟨name, text₃⟩
  · rfl
  simp only [Option.map_some, Option.bind_some]
  rw [takeWhile_crlf_of_neg isGap_return isGap_break,
    Text.dropWhile_crlf (isGap_return.trans isGap_break.symm),
    sign?_crlf (by decide) (by decide)]
  rcases sign? '(' (text₃.dropWhile isGap) with - | text₄
  · rfl
  -- the parameters are the one part that goes on over line feeds
  simp only [Option.map_some, Option.bind_some]
  rw [Text.takeWhile_crlf (by decide), Text.dropWhile_crlf (by decide),
    sign?_crlf (by decide) (by decide)]
  cases sign? ')' (text₄.dropWhile (· != ')')) <;> rfl

theorem qualifier?_crlf (s : List Char) :
    qualifier? (crlf s) = (qualifier? s).map (fun found => (found.1, crlf found.2)) := by
  simp only [qualifier?, Option.bind_eq_bind]
  rw [oneOf?_crlf qualifiers_letters]
  rcases oneOf? qualifiers s with - | ⟨taken, text₁⟩
  · rfl
  simp only [Option.map_some, Option.bind_some]
  rw [run?_crlf isGap_return isGap_break]
  cases run? isGap text₁ <;> rfl

theorem optionalQualifier_crlf (s : List Char) :
    optionalQualifier (crlf s) = ((optionalQualifier s).1, crlf (optionalQualifier s).2) := by
  rw [optionalQualifier, optionalQualifier, qualifier?_crlf]
  cases qualifier? s <;> rfl

theorem headerLine?_crlf : HeaderLine.reader.KeepsStep HeaderLine.crlf := by
  intro s
  change headerLine? (crlf s) = (headerLine? s).map _
  simp only [headerLine?, Option.bind_eq_bind]
  rw [takeWhile_crlf_of_neg isGap_return isGap_break,
    Text.dropWhile_crlf (isGap_return.trans isGap_break.symm), optionalQualifier_crlf]
  dsimp only
  rw [signature?_crlf]
  cases signature? (optionalQualifier (s.dropWhile isGap)).2 <;> rfl

/-! ## Variable lines and return lines -/

theorem variableLine?_crlf : VariableLine.reader.KeepsStep id := by
  intro s
  change variableLine? (crlf s) = (variableLine? s).map _
  simp only [variableLine?, Option.bind_eq_bind]
  rw [takeWhile_crlf_of_neg isGap_return isGap_break,
    Text.dropWhile_crlf (isGap_return.trans isGap_break.symm), oneOf?_crlf scopes_letters]
  rcases oneOf? scopes (s.dropWhile isGap) with - | ⟨scope, text₁⟩
  · rfl
  simp only [Option.map_some, Option.bind_some]
  rw [run?_crlf isGap_return isGap_break]
  rcases run? isGap text₁ with - | ⟨gap, text₂⟩
  · rfl
  simp only [Option.map_some, Option.bind_some]
  rw [run?_crlf isWord_return isWord_break]
  cases run? isWord text₂ <;> rfl

/-- A return line after carriage returns have been put in. -/
def ReturnLine.crlf (line : ReturnLine) : ReturnLine := ⟨line.word, Text.crlf line.tail⟩

theorem lineTail_crlf (s : List Char) : lineTail (crlf s) = crlf (lineTail s) := by
  induction s with
  | nil => rfl
  | cons c s ih =>
    by_cases hc : c = '\n'
    · subst hc
      rfl
    · have hcons : ∀ t, lineTail (c :: t) = c :: lineTail t := by
        intro t
        simp [lineTail, hc]
      rw [Text.crlf_cons hc, hcons, hcons, ih, Text.crlf_cons hc]

theorem any_isWord_head?_crlf (s : List Char) :
    (crlf s).head?.any isWord = s.head?.any isWord := by
  cases s with
  | nil => rfl
  | cons c s =>
    by_cases hc : c = '\n'
    · subst hc
      rw [Text.crlf_cons_break, List.head?_cons, List.head?_cons, Option.any_some, Option.any_some,
        isWord_return, isWord_break]
    · rw [Text.crlf_cons hc]
      rfl

theorem returnLine?_crlf : ReturnLine.reader.KeepsStep ReturnLine.crlf := by
  intro s
  change returnLine? (crlf s) = (returnLine? s).map _
  simp only [returnLine?, Option.bind_eq_bind]
  rw [word?_crlf returnWord_letters]
  rcases hword : word? returnWord s with - | ⟨word, rest⟩
  · rfl
  simp only [Option.map_some, Option.bind_some]
  rw [any_isWord_head?_crlf, lineTail_crlf]
  split <;> rfl

/-- The first return line after carriage returns have been put in. -/
theorem firstReturn?_crlf (text : List Char) (start : Nat) :
    firstReturn? (crlf text) (crlfOffset text start) =
      (firstReturn? text start).map (fun found => (crlfOffset text found.1, found.2.crlf)) := by
  have hscan := LineReader.scan_crlf returnLine?_crlf start true [] text
  unfold firstReturn?
  rw [← List.head?_map]
  exact congrArg List.head? hscan

end Grammar

end ProgramOutline
