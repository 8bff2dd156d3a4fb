import ProgramOutline.Proofs.Grammar.Header
import ProgramOutline.Proofs.Grammar.Return
import ProgramOutline.Proofs.Grammar.Variable
import ProgramOutline.Proofs.Text.Lowercase

/-!
# Reading a text in lower case

A keyword matches under Unicode case folding. Beside the letter in both cases that lets in the
Kelvin sign for `k` and the long `s` for `s`, and nothing for any other letter. So the readers find
the same words in a text and in its lower case, and a word without `k` and `s` is read exactly where
the text spells it in some case of ASCII letters.

Results:
* `word?_plain`: reading a word without `k` and `s`.
* `LineReader.scan_lower`: a reader that ignores case finds the same items in lower case.
* `headerLine?_lower`, `variableLine?_lower`, `returnLine?_lower`: the three line readers.
-/

namespace ProgramOutline

open Unicode

namespace Grammar

theorem firstCase_toLower (c : Char) : firstCase c.toLower.toNat = firstCase c.toNat := by
  have hcapital : ∀ i < 26, firstCase (Char.ofNat (i + 65)).toLower.toNat =
      firstCase (Char.ofNat (i + 65)).toNat := by decide
  rcases toLower_cases c with h | ⟨i, hi, rfl⟩
  · rw [h]
  · exact hcapital i hi

/-- The lower case of a character matches what the character does. -/
theorem sameCase_toLower (k c : Char) : sameCase k c.toLower = sameCase k c := by
  rw [sameCase, sameCase, firstCase_toLower]

/-- A letter other than `k` and `s` has the same lower case as what it matches. -/
theorem toLower_of_sameCase {k c : Char} (hk : IsLetter k) (hne : k.toLower ≠ 'k' ∧ k.toLower ≠ 's')
    (h : sameCase k c = true) : c.toLower = k.toLower := by
  have hclass : ∀ i < 26, ∀ first ∈ [65, 97], (Char.ofNat (i + first)).toLower ≠ 'k' ∧
      (Char.ofNat (i + first)).toLower ≠ 's' →
      ∀ n ∈ letterClass (i + 65), (Char.ofNat n).toLower = (Char.ofNat (i + first)).toLower := by
    decide
  obtain ⟨i, hi, hk⟩ := hk.cases
  have hc := (sameCase_iff hi hk).mp h
  rw [← Char.ofNat_toNat c]
  rcases hk with rfl | rfl
  · exact hclass i hi 65 (by decide) hne c.toNat hc
  · exact hclass i hi 97 (by decide) hne c.toNat hc

/-- A letter that matches nothing but itself in either case. -/
def IsPlainLetter (k : Char) : Prop := IsLetter k ∧ k.toLower ≠ 'k' ∧ k.toLower ≠ 's'

instance (k : Char) : Decidable (IsPlainLetter k) :=
  inferInstanceAs (Decidable (IsLetter k ∧ k.toLower ≠ 'k' ∧ k.toLower ≠ 's'))

theorem sameCase_plain {k : Char} (hk : IsPlainLetter k) (c : Char) :
    sameCase k c = (c.toLower == k.toLower) := by
  rw [Bool.eq_iff_iff, beq_iff_eq]
  constructor
  · exact toLower_of_sameCase hk.1 hk.2
  · intro h
    rw [← sameCase_toLower, h, sameCase_toLower]
    simp [sameCase]

/-- A word of plain letters is read where the text spells it in some case of ASCII letters. -/
theorem word?_plain {word : List Char} (hword : ∀ k ∈ word, IsPlainLetter k) (text : List Char) :
    word? word text =
      if Text.equalIgnoringCase (text.take word.length) word then
        some (text.take word.length, text.drop word.length)
      else none := by
  induction word generalizing text with
  | nil => simp [word?, Text.equalIgnoringCase]
  | cons k word ih =>
    cases text with
    | nil => simp [word?, Text.equalIgnoringCase]
    | cons c text =>
      rw [word?_cons, sameCase_plain (hword k (by simp)), ih (fun k hk => hword k (by simp [hk]))]
      simp only [List.length_cons, List.take_succ_cons, List.drop_succ_cons,
        Text.equalIgnoringCase, Bool.and_eq_true]
      by_cases hc : (c.toLower == k.toLower) = true
      · simp only [hc, if_true, true_and]
        split <;> rfl
      · simp [hc]

/-! ## Parts -/

open Text (lower)

theorem word?_lower (word s : List Char) :
    word? word (lower s) = (word? word s).map (fun found => (lower found.1, lower found.2)) := by
  induction word generalizing s with
  | nil => rfl
  | cons k word ih =>
    cases s with
    | nil => rfl
    | cons c s =>
      rw [Text.lower_cons, word?_cons, word?_cons, sameCase_toLower, ih]
      split
      · rw [Option.map_map, Option.map_map]
        rfl
      · rfl

theorem oneOf?_lower (words : List (List Char)) (s : List Char) :
    oneOf? words (lower s) =
      (oneOf? words s).map (fun found => (lower found.1, lower found.2)) := by
  induction words with
  | nil => rfl
  | cons word words ih =>
    rw [oneOf?_cons, oneOf?_cons, word?_lower, ih]
    cases word? word s <;> rfl

theorem run?_lower {p : Char → Bool} (hp : IgnoresCase p) (s : List Char) :
    run? p (lower s) = (run? p s).map (fun found => (lower found.1, lower found.2)) := by
  rw [run?, run?, Text.takeWhile_lower hp, Text.dropWhile_lower hp, Text.lower_isEmpty]
  split <;> rfl

theorem sign?_lower {sign : Char} (hsign : ¬ IsLetter sign) (s : List Char) :
    sign? sign (lower s) = (sign? sign s).map lower := by
  cases s with
  | nil => rfl
  | cons c s =>
    rw [Text.lower_cons, sign?, sign?]
    simp only [toLower_eq_iff hsign]
    split <;> rfl

theorem ignoresCase_isGap : IgnoresCase isGap :=
  .or (.beq (by decide)) (.beq (by decide))

/-! ## Header lines -/

/-- A signature in lower case. -/
def Signature.lower (s : Signature) : Signature :=
  ⟨Text.lower s.keyword, Text.lower s.gap, Text.lower s.name, Text.lower s.space,
    Text.lower s.parameters⟩

/-- A qualifier in lower case. -/
def Qualifier.lower (q : Qualifier) : Qualifier := ⟨Text.lower q.word, Text.lower q.gap⟩

/-- A header line in lower case. -/
def HeaderLine.lower (line : HeaderLine) : HeaderLine :=
  ⟨Text.lower line.indent, line.qualifier.map Qualifier.lower, line.signature.lower⟩

theorem HeaderLine.text_lower (line : HeaderLine) :
    line.lower.text = Text.lower line.text := by
  have hopen : '('.toLower = '(' := by decide
  have hclose : ')'.toLower = ')' := by decide
  rcases hq : line.qualifier with - | q <;>
    simp [HeaderLine.text, HeaderLine.head, HeaderLine.lower, Signature.text, Signature.lower,
      Qualifier.text, Qualifier.lower, hq, hopen, hclose]

theorem signature?_lower (s : List Char) :
    signature? (lower s) = (signature? s).map (fun found => (found.1.lower, lower found.2)) := by
  simp only [signature?, Option.bind_eq_bind]
  rw [word?_lower]
  rcases word? functionWord s with - | ⟨keyword, text₁⟩
  · rfl
  simp only [Option.map_some, Option.bind_some]
  rw [run?_lower ignoresCase_isGap]
  rcases run? isGap text₁ with - | ⟨gap, text₂⟩
  · rfl
  simp only [Option.map_some, Option.bind_some]
  rw [run?_lower ignoresCase_isWord]
  rcases run? isWord text₂ with - | ⟨name, text₃⟩
  · rfl
  simp only [Option.map_some, Option.bind_some]
  rw [Text.takeWhile_lower ignoresCase_isGap, Text.dropWhile_lower ignoresCase_isGap,
    sign?_lower (by decide)]
  rcases sign? '(' (text₃.dropWhile isGap) with - | text₄
  · rfl
  simp only [Option.map_some, Option.bind_some]
  rw [Text.takeWhile_lower (.bne (by decide)), Text.dropWhile_lower (.bne (by decide)),
    sign?_lower (by decide)]
  cases sign? ')' (text₄.dropWhile (· != ')')) <;> rfl

theorem qualifier?_lower (s : List Char) :
    qualifier? (lower s) = (qualifier? s).map (fun found => (found.1.lower, lower found.2)) := by
  simp only [qualifier?, Option.bind_eq_bind]
  rw [oneOf?_lower]
  rcases oneOf? qualifiers s with - | ⟨taken, text₁⟩
  · rfl
  simp only [Option.map_some, Option.bind_some]
  rw [run?_lower ignoresCase_isGap]
  cases run? isGap text₁ <;> rfl

theorem optionalQualifier_lower (s : List Char) :
    optionalQualifier (lower s) =
      ((optionalQualifier s).1.map Qualifier.lower, lower (optionalQualifier s).2) := by
  rw [optionalQualifier, optionalQualifier, qualifier?_lower]
  cases qualifier? s <;> rfl

end Grammar

/-! ## Line readers -/

/-- The reader reads the same item, changed by `f`, in lower case. -/
def LineReader.CaseBlind {α : Type} (r : LineReader α) (f : α → α) : Prop :=
  ∀ text, r.read? (Text.lower text) =
    (r.read? text).map (fun found => (f found.1, Text.lower found.2))

theorem LineReader.CaseBlind.taken_eq {α : Type} {r : LineReader α} {f : α → α}
    (h : r.CaseBlind f) {text rest : List Char} {item : α}
    (hread : r.read? text = some (item, rest)) : r.taken (f item) = Text.lower (r.taken item) := by
  have hlower : r.read? (Text.lower text) = some (f item, Text.lower rest) := by
    rw [h, hread]
    rfl
  have hsplit : r.taken (f item) ++ Text.lower rest =
      Text.lower (r.taken item) ++ Text.lower rest := by
    rw [← r.split hlower, r.split hread, Text.lower_append]
  exact List.append_cancel_right hsplit

/-- A scan of a text in lower case finds the items of the text in their places. -/
theorem LineReader.scan_lower {α : Type} {r : LineReader α} {f : α → α} (h : r.CaseBlind f)
    (position : Nat) (lineStart : Bool) (offset : Nat) (text : List Char) :
    r.scan position lineStart offset (Text.lower text) =
      (r.scan position lineStart offset text).map (fun found => (found.1, f found.2)) := by
  induction position, lineStart, offset, text using r.scan_induction with
  | item position offset text item rest hpos hread ih =>
    have hlower : r.read? (Text.lower text) = some (f item, Text.lower rest) := by
      rw [h, hread]
      rfl
    rw [r.scan_of_read hpos hlower, r.scan_of_read hpos hread, List.map_cons, h.taken_eq hread,
      Text.byteLength_lower, ih]
  | pass position lineStart offset c rest hpass ih =>
    have hlower : r.Passes position lineStart offset (Text.lower (c :: rest)) := by
      intro hline hle
      rw [h, hpass hline hle]
      rfl
    have hbreak : (c.toLower == '\n') = (c == '\n') := IgnoresCase.beq (by decide) c
    rw [Text.lower_cons] at hlower ⊢
    rw [r.scan_cons hlower, r.scan_cons hpass, utf8Size_toLower, hbreak, ih]
  | done position lineStart offset hpass =>
    rw [r.scan_nil hpass, Text.lower_nil, r.scan_nil hpass]
    rfl

namespace Grammar

theorem headerLine?_lower : HeaderLine.reader.CaseBlind HeaderLine.lower := by
  intro s
  change headerLine? (Text.lower s) = (headerLine? s).map _
  simp only [headerLine?, Option.bind_eq_bind]
  rw [Text.takeWhile_lower ignoresCase_isGap, Text.dropWhile_lower ignoresCase_isGap,
    optionalQualifier_lower]
  dsimp only
  rw [signature?_lower]
  cases signature? (optionalQualifier (s.dropWhile isGap)).2 <;> rfl

/-- A variable line in lower case. -/
def VariableLine.lower (line : VariableLine) : VariableLine :=
  ⟨Text.lower line.indent, Text.lower line.scope, Text.lower line.gap, Text.lower line.name⟩

theorem variableLine?_lower : VariableLine.reader.CaseBlind VariableLine.lower := by
  intro s
  change variableLine? (Text.lower s) = (variableLine? s).map _
  simp only [variableLine?, Option.bind_eq_bind]
  rw [Text.takeWhile_lower ignoresCase_isGap, Text.dropWhile_lower ignoresCase_isGap, oneOf?_lower]
  rcases oneOf? scopes (s.dropWhile isGap) with - | ⟨scope, text₁⟩
  · rfl
  simp only [Option.map_some, Option.bind_some]
  rw [run?_lower ignoresCase_isGap]
  rcases run? isGap text₁ with - | ⟨gap, text₂⟩
  · rfl
  simp only [Option.map_some, Option.bind_some]
  rw [run?_lower ignoresCase_isWord]
  cases run? isWord text₂ <;> rfl

/-- A return line in lower case. -/
def ReturnLine.lower (line : ReturnLine) : ReturnLine :=
  ⟨Text.lower line.word, Text.lower line.tail⟩

theorem ReturnLine.text_lower (line : ReturnLine) : line.lower.text = Text.lower line.text :=
  (Text.lower_append ..).symm

theorem lineTail_lower (s : List Char) : lineTail (Text.lower s) = Text.lower (lineTail s) := by
  have hbreak : IgnoresCase (· != '\n') := .bne (by decide)
  have htake : ∀ s, (Text.lower s).take 1 = Text.lower (s.take 1) := fun s => List.map_take.symm
  rw [lineTail, lineTail, Text.takeWhile_lower hbreak, Text.dropWhile_lower hbreak, htake,
    Text.lower_append]

theorem returnLine?_lower : ReturnLine.reader.CaseBlind ReturnLine.lower := by
  intro s
  change returnLine? (Text.lower s) = (returnLine? s).map _
  simp only [returnLine?, Option.bind_eq_bind]
  rw [word?_lower]
  rcases word? returnWord s with - | ⟨word, rest⟩
  · rfl
  have hedge : (Text.lower rest).head?.any isWord = rest.head?.any isWord := by
    cases rest with
    | nil => rfl
    | cons c rest => exact ignoresCase_isWord c
  simp only [Option.map_some, Option.bind_some]
  rw [hedge, lineTail_lower]
  split <;> rfl

/-- The first return line of a text in lower case. -/
theorem firstReturn?_lower (text : List Char) (start : Nat) :
    firstReturn? (Text.lower text) start =
      (firstReturn? text start).map (fun found => (found.1, found.2.lower)) := by
  rw [firstReturn?, firstReturn?, LineReader.scan_lower returnLine?_lower, List.head?_map]

end Grammar

end ProgramOutline
