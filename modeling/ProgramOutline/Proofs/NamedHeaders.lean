import ProgramOutline.Body
import ProgramOutline.Proofs.Grammar.Header
import ProgramOutline.Proofs.Qualifiers
import ProgramOutline.Proofs.Regex.Language
import ProgramOutline.Proofs.Regex.Quoting
import ProgramOutline.Proofs.Text.Excerpt
import ProgramOutline.Proofs.Unicode.CaseClasses

/-!
# Headers of named functions

The header of a function with a given name is looked for anywhere in a text: a word and blanks if
they stand there, the keyword at the start of a word, blanks, the name character by character up to
case, and a parameter list up to the first closing parenthesis. `NamedHeader.In` says so of the
pieces of the text; `matches_headerOf` shows that the expression that is searched for matches just
these.

Before its parameter list such a header has as many opening parentheses as its name, so two of them
that start together also end together (`NamedHeader.In.ends`).
-/

namespace ProgramOutline

open Grammar Regex Unicode

/-! ## The pieces of a header -/

/-- What may stand before the keyword: nothing, or a word and blanks. -/
def IsPreface (lead : List Char) : Prop :=
  lead = [] ∨ ∃ word blanks, lead = word ++ blanks ∧ word ≠ [] ∧ (∀ c ∈ word, isWord c = true) ∧
    blanks ≠ [] ∧ ∀ c ∈ blanks, isGap c = true

/-- The signature is that of a function with the name, in any case. -/
structure Grammar.Signature.Calls (s : Signature) (name : List Char) : Prop where
  keyword : EqualUpToCase functionWord s.keyword
  gap_ne_nil : s.gap ≠ []
  gap : ∀ c ∈ s.gap, isGap c = true
  name : EqualUpToCase name s.name
  space : ∀ c ∈ s.space, isGap c = true
  parameters : ')' ∉ s.parameters

/-- A text cut at a header: what comes before it, the word before the keyword with its blanks, the
    signature and what comes after. -/
structure NamedHeader where
  before : List Char
  lead : List Char
  signature : Signature
  after : List Char

namespace NamedHeader

/-- What stands before the parameter list of the header. -/
def head (h : NamedHeader) : List Char :=
  h.lead ++ (h.signature.keyword ++ (h.signature.gap ++ (h.signature.name ++ h.signature.space)))

/-- Where the header starts. -/
def start (h : NamedHeader) : Nat := Text.byteLength h.before

/-- Where its parameter list opens. -/
def opening (h : NamedHeader) : Nat := h.start + Text.byteLength h.head

/-- Where it ends. -/
def stop (h : NamedHeader) : Nat := h.start + Text.byteLength (h.lead ++ h.signature.text)

/-- The text is cut at a header of a function with the name. The word before the keyword, or the
    keyword if there is none, starts a word; after blanks the keyword always does. -/
structure In (h : NamedHeader) (name text : List Char) : Prop where
  text_eq : text = h.before ++ (h.lead ++ (h.signature.text ++ h.after))
  boundary : ∀ c ∈ h.before.getLast?, isWord c = false
  lead : IsPreface h.lead
  calls : h.signature.Calls name

end NamedHeader

/-! ## Characters of the pieces -/

theorem isWord_of_isGap {c : Char} (h : isGap c = true) : isWord c = false := by
  by_contra hword
  have := isBlank_of_isWord (by simpa using hword)
  rw [isBlank_of_isGap h] at this
  cases this

theorem not_isGap_of_isWord {c : Char} (h : isWord c = true) : isGap c = false := by
  by_contra hgap
  rw [isWord_of_isGap (by simpa using hgap)] at h
  cases h

theorem EqualUpToCase.refl (text : List Char) : EqualUpToCase text text :=
  List.forall₂_same.mpr fun c _ => by simp [sameCase]

theorem EqualUpToCase.trans_left {a b c : List Char} (h : EqualUpToCase a b)
    (h' : EqualUpToCase a c) : EqualUpToCase b c := by
  induction h generalizing c with
  | nil => exact h'
  | cons hd _ ih =>
    cases h' with
    | cons hd' htail =>
      refine .cons ?_ (ih htail)
      rw [sameCase, beq_iff_eq] at *
      exact hd.symm.trans hd'

theorem EqualUpToCase.isWord {word text : List Char} (hword : ∀ k ∈ word, IsLetter k)
    (h : EqualUpToCase word text) : ∀ c ∈ text, isWord c = true := by
  induction h with
  | nil => simp
  | cons hc _ ih =>
    obtain ⟨hk, hword⟩ := List.forall_mem_cons.mp hword
    exact List.forall_mem_cons.mpr ⟨isWord_of_sameCase hk hc, ih hword⟩

/-- A sign, which is alone in its case class, stands as often in a text as in one equal to it. -/
theorem EqualUpToCase.count {sign : Char} (hascii : sign.toNat < 128) (hsign : ¬ IsLetter sign)
    {a b : List Char} (h : EqualUpToCase a b) : b.count sign = a.count sign := by
  induction h with
  | nil => rfl
  | @cons k c _ _ hc _ ih =>
    have hsame : c = sign ↔ k = sign := by
      constructor
      · rintro rfl
        have hback : sameCase c k = true := by
          rw [sameCase, beq_iff_eq] at hc ⊢
          exact hc.symm
        simpa [sameCase_ascii hascii hsign] using hback
      · rintro rfl
        simpa [sameCase_ascii hascii hsign] using hc
    rw [List.count_cons, List.count_cons, ih]
    simp [beq_iff_eq, hsame]

theorem count_eq_zero_of_forall {p : Char → Bool} {sign : Char} (hsign : p sign = false)
    {text : List Char} (h : ∀ c ∈ text, p c = true) : text.count sign = 0 := by
  rw [List.count_eq_zero]
  intro hmem
  rw [h sign hmem] at hsign
  cases hsign

/-- A text equal to a word up to case has no blanks. -/
theorem not_isGap_of_equalUpToCase {a b : List Char} (ha : ∀ c ∈ a, isWord c = true)
    (h : EqualUpToCase a b) : ∀ c ∈ b, isGap c = false := by
  intro c hc
  by_contra hgap
  have hgap : isGap c = true := by simpa using hgap
  have hsign : c.toNat < 128 ∧ ¬ IsLetter c := by
    rcases (by simpa [isGap] using hgap : c = ' ' ∨ c = '\t') with rfl | rfl <;> decide
  have hcount := h.count hsign.1 hsign.2
  rw [count_eq_zero_of_forall (isWord_of_isGap hgap) ha] at hcount
  exact List.count_eq_zero.mp hcount hc

/-- Two cuts at a sign are the same if it stands equally often before them. -/
theorem cut_unique {sign : Char} {a b r s : List Char} (h : a ++ sign :: r = b ++ sign :: s)
    (hcount : a.count sign = b.count sign) : a = b ∧ r = s := by
  induction a generalizing b with
  | nil =>
    cases b with
    | nil => exact ⟨rfl, (List.cons.inj h).2⟩
    | cons c b =>
      obtain ⟨rfl, -⟩ := List.cons.inj h
      simp at hcount
  | cons c a ih =>
    cases b with
    | nil =>
      obtain ⟨rfl, -⟩ := List.cons.inj h
      simp at hcount
    | cons d b =>
      obtain ⟨rfl, hrest⟩ := List.cons.inj h
      rw [List.count_cons, List.count_cons, Nat.add_right_cancel_iff] at hcount
      obtain ⟨rfl, rfl⟩ := ih hrest hcount
      exact ⟨rfl, rfl⟩

theorem IsPreface.count {lead : List Char} (h : IsPreface lead) : lead.count '(' = 0 := by
  rcases h with rfl | ⟨word, blanks, rfl, -, hword, -, hblanks⟩
  · rfl
  · rw [List.count_append, count_eq_zero_of_forall (by decide) hword,
      count_eq_zero_of_forall (by decide) hblanks]

namespace NamedHeader

theorem text_eq_head (h : NamedHeader) :
    h.lead ++ h.signature.text = h.head ++ '(' :: (h.signature.parameters ++ [')']) := by
  simp [head, Signature.text]

namespace In

variable {h h' : NamedHeader} {name text : List Char}

theorem text_eq_head (hin : h.In name text) :
    text = h.before ++ (h.head ++ '(' :: (h.signature.parameters ++ ')' :: h.after)) := by
  rw [hin.text_eq, ← List.append_assoc h.lead, NamedHeader.text_eq_head]
  simp

/-- Before the parameter list there are as many opening parentheses as in the name. -/
theorem count_head (hin : h.In name text) : h.head.count '(' = name.count '(' := by
  have hkeyword := hin.calls.keyword.isWord functionWord_letters
  have hname : h.signature.name.count '(' = name.count '(' :=
    hin.calls.name.count (by decide) (by decide)
  simp only [head, List.count_append, hin.lead.count,
    count_eq_zero_of_forall (by decide : isWord '(' = false) hkeyword,
    count_eq_zero_of_forall (by decide : isGap '(' = false) hin.calls.gap,
    count_eq_zero_of_forall (by decide : isGap '(' = false) hin.calls.space,
    hname]
  omega

/-- Headers of functions with the same name that start together also end together. -/
theorem ends (hin : h.In name text) (hin' : h'.In name text) (hstart : h.start = h'.start) :
    h.opening = h'.opening ∧ h.stop = h'.stop := by
  have htext := hin.text_eq_head.symm.trans hin'.text_eq_head
  obtain ⟨-, hrest⟩ := Text.cut_at_offset htext hstart
  obtain ⟨hhead, hrest⟩ := cut_unique hrest (hin.count_head.trans hin'.count_head.symm)
  have hnone : ∀ {g : NamedHeader}, g.In name text → g.signature.parameters.count ')' = 0 :=
    fun hg => List.count_eq_zero.mpr hg.calls.parameters
  obtain ⟨hparameters, -⟩ := cut_unique hrest ((hnone hin).trans (hnone hin').symm)
  refine ⟨by rw [opening, opening, hstart, hhead], ?_⟩
  rw [stop, stop, NamedHeader.text_eq_head, NamedHeader.text_eq_head, hstart, hhead, hparameters]

end In

end NamedHeader

/-! ## The expression for a header -/

section Expression

variable {a b : Cursor}

theorem inTurn_anyCase {word : List Char} :
    Expr.InTurn (anyCase word) a b ↔ ∃ taken, EqualUpToCase word taken ∧ a.Crosses taken b := by
  induction word generalizing a with
  | nil =>
    simp only [anyCase, List.map_nil, Expr.inTurn_nil, EqualUpToCase,
      List.forall₂_nil_left_iff, exists_eq_left, Cursor.crosses_nil]
  | cons k word ih =>
    have hk : (CharSet.single k).caseClosure.contains k = true := by
      simp [contains_caseClosure, sameCase]
    rw [anyCase, List.map_cons, ← anyCase, Expr.inTurn_cons]
    simp only [Expr.matches_ofSet hk, Cursor.step?_eq_some_iff, contains_caseClosure, ih]
    constructor
    · rintro ⟨mid, ⟨c, hc, hfirst⟩, taken, htaken, hrest⟩
      exact ⟨c :: taken, .cons hc htaken, Cursor.crosses_cons.mpr ⟨mid, hfirst, hrest⟩⟩
    · rintro ⟨taken, htaken, hcross⟩
      cases htaken with
      | cons hc htaken =>
        obtain ⟨mid, hfirst, hrest⟩ := Cursor.crosses_cons.mp hcross
        exact ⟨mid, ⟨_, hc, hfirst⟩, _, htaken, hrest⟩

/-- A repetition of characters matches a stretch of them. -/
theorem matches_run {chars : CharSet} {p : Char → Bool} (hp : chars.contains = p) {least : Nat} :
    (Expr.rep least none true (.set false chars)).Matches a b ↔
      ∃ taken, least ≤ taken.length ∧ (∀ c ∈ taken, p c = true) ∧ a.Crosses taken b := by
  rw [Expr.matches_rep_chars rfl, hp.symm]
  constructor
  · rintro ⟨count, hleast, -, taken, rfl, hall, hcross⟩
    exact ⟨taken, hleast, hall, hcross⟩
  · rintro ⟨taken, hleast, hall, hcross⟩
    exact ⟨taken.length, hleast, nofun, taken, rfl, hall, hcross⟩

theorem matches_literal {text : List Char} :
    (Expr.literal text).Matches a b ↔ a.Crosses text b :=
  Cursor.follow?_eq_some_iff

/-- A signature is crossed part by part. -/
theorem crosses_signature {s : Signature} : a.Crosses s.text b ↔
    ∃ a₁, a.Crosses s.keyword a₁ ∧ ∃ a₂, a₁.Crosses s.gap a₂ ∧ ∃ a₃, a₂.Crosses s.name a₃ ∧
      ∃ a₄, a₃.Crosses s.space a₄ ∧ ∃ a₅, a₄.Crosses ['('] a₅ ∧
      ∃ a₆, a₅.Crosses s.parameters a₆ ∧ a₆.Crosses [')'] b := by
  have htext : s.text =
      s.keyword ++ (s.gap ++ (s.name ++ (s.space ++ (['('] ++ (s.parameters ++ [')']))))) := rfl
  simp only [htext, Cursor.crosses_append]

/-- The parts of the expression from the keyword on match a signature. -/
theorem inTurn_signature {name : List Char} :
    Expr.InTurn (anyCase functionWord ++ ([blanks] ++ (anyCase name ++
        [.rep 0 none true spaceOrTab, .literal ['('], .rep 0 none true (Regex.allBut ')'),
          .literal [')']]))) a b ↔
      ∃ s : Signature, s.Calls name ∧ a.Crosses s.text b := by
  have hgap : spaceOrTab = .set false gapSet := rfl
  have hclose : Regex.allBut ')' = .set false (Grammar.allBut 41) := rfl
  simp only [Expr.inTurn_append, Expr.inTurn_cons, Expr.inTurn_nil, inTurn_anyCase, blanks, hgap,
    hclose, matches_run contains_gapSet, matches_run contains_notClose, matches_literal,
    crosses_signature]
  constructor
  · rintro ⟨a₁, ⟨keyword, hkeyword, h₁⟩, a₂, ⟨_, ⟨gap, hne, hgap, h₂⟩, rfl⟩, a₃,
      ⟨name', hname, h₃⟩, a₄, ⟨space, -, hspace, h₄⟩, a₅, h₅, a₆,
      ⟨parameters, -, hparameters, h₆⟩, _, h₇, rfl⟩
    have hopen : ')' ∉ parameters := fun hmem => by simpa using hparameters _ hmem
    exact ⟨⟨keyword, gap, name', space, parameters⟩,
      ⟨hkeyword, List.length_pos_iff.mp hne, hgap, hname, hspace, hopen⟩,
      a₁, h₁, a₂, h₂, a₃, h₃, a₄, h₄, a₅, h₅, a₆, h₆, h₇⟩
  · rintro ⟨s, hs, a₁, h₁, a₂, h₂, a₃, h₃, a₄, h₄, a₅, h₅, a₆, h₆, h₇⟩
    have hne : 1 ≤ s.gap.length := List.length_pos_iff.mpr hs.gap_ne_nil
    have hparameters : ∀ c ∈ s.parameters, (c != ')') = true := by
      intro c hc
      simpa using fun heq : c = ')' => hs.parameters (heq ▸ hc)
    exact ⟨a₁, ⟨_, hs.keyword, h₁⟩, a₂, ⟨a₂, ⟨_, hne, hs.gap, h₂⟩, rfl⟩, a₃, ⟨_, hs.name, h₃⟩,
      a₄, ⟨_, Nat.zero_le _, hs.space, h₄⟩, a₅, h₅, a₆, ⟨_, Nat.zero_le _, hparameters, h₆⟩,
      b, h₇, rfl⟩

/-- A signature starts with a word character, so before it there is a word boundary if no word
    character comes before. -/
theorem boundary_signature {name : List Char} {s : Signature} (hs : s.Calls name)
    (hcross : a.Crosses s.text b) :
    (Look.word .boundary false).holds a.before a.after = true ↔
      ∀ c ∈ a.before, isWord c = false := by
  have hafter : ∃ c, a.after = some c ∧ isWord c = true := by
    cases hkeyword : s.keyword with
    | nil => exact absurd (hkeyword ▸ hs.keyword).length_eq (by decide)
    | cons c keyword =>
      rw [Signature.text, hkeyword, List.cons_append] at hcross
      exact ⟨c, hcross.after_eq, hs.keyword.isWord functionWord_letters c (by simp [hkeyword])⟩
  obtain ⟨c, hc, hword⟩ := hafter
  rw [Look.holds, hc]
  cases a.before <;> simp [WordEdge.holds, hword]

/-- The optional start of the expression matches nothing, or a word and blanks where no word
    character comes before. -/
theorem matches_leadingWord :
    leadingWord.Matches a b ↔ b = a ∨ (∀ c ∈ a.before, isWord c = false) ∧
      ∃ word blanks, word ≠ [] ∧ (∀ c ∈ word, isWord c = true) ∧ blanks ≠ [] ∧
        (∀ c ∈ blanks, isGap c = true) ∧ a.Crosses (word ++ blanks) b := by
  have hoption : leadingWord = .rep 0 (some 1) true
      (.concat [boundary, .rep 1 none true (.set false Unicode.word), blanks]) := rfl
  have hgap : spaceOrTab = .set false gapSet := rfl
  have hboundary : ∀ {c : Char} {word : List Char} {mid : Cursor}, isWord c = true →
      a.Crosses (c :: word) mid → ((Look.word .boundary false).holds a.before a.after = true ↔
        ∀ c ∈ a.before, isWord c = false) := by
    intro c word mid hc hcross
    rw [Look.holds, hcross.after_eq]
    cases a.before <;> simp [WordEdge.holds, hc]
  rw [hoption, Expr.matches_option, Expr.matches_concat]
  simp only [Expr.inTurn_cons, Expr.inTurn_nil, blanks, hgap, matches_run contains_gapSet,
    matches_run contains_word]
  refine or_congr_right ⟨?_, ?_⟩
  · rintro ⟨a₁, ⟨hholds, rfl⟩, a₂, ⟨word, hne, hword, h₂⟩, a₃, ⟨blanks, hne', hblanks, h₃⟩, rfl⟩
    have hne : word ≠ [] := List.length_pos_iff.mp hne
    refine ⟨?_, word, blanks, hne, hword, List.length_pos_iff.mp hne', hblanks,
      Cursor.crosses_append.mpr ⟨a₂, h₂, h₃⟩⟩
    obtain ⟨c, word, rfl⟩ := List.exists_cons_of_ne_nil hne
    exact (hboundary (hword c (by simp)) h₂).mp hholds
  · rintro ⟨hbefore, word, blanks, hne, hword, hne', hblanks, hcross⟩
    obtain ⟨a₂, h₂, h₃⟩ := Cursor.crosses_append.mp hcross
    obtain ⟨c, word, rfl⟩ := List.exists_cons_of_ne_nil hne
    exact ⟨a, ⟨(hboundary (hword c (by simp)) h₂).mpr hbefore, rfl⟩, a₂,
      ⟨_, List.length_pos_iff.mpr hne, hword, h₂⟩, b,
      ⟨blanks, List.length_pos_iff.mpr hne', hblanks, h₃⟩, rfl⟩

/-- The parts of the expression for a header, from the keyword on taken together. -/
theorem headerOf_eq (name : List Char) :
    headerOf name = .concat (leadingWord :: boundary :: (anyCase functionWord ++
      ([blanks] ++ (anyCase name ++ [.rep 0 none true spaceOrTab, .literal ['('],
        .rep 0 none true (Regex.allBut ')'), .literal [')']])))) := by
  simp only [headerOf, List.append_assoc, List.cons_append, List.nil_append]
  rfl

/-- The expression for the header of a named function matches a word and blanks, if they are there,
    and a signature with the name, where no word character comes before. -/
theorem matches_headerOf {name : List Char} :
    (headerOf name).Matches a b ↔ (∀ c ∈ a.before, isWord c = false) ∧
      ∃ lead, ∃ s : Signature, IsPreface lead ∧ s.Calls name ∧ a.Crosses (lead ++ s.text) b := by
  rw [headerOf_eq, Expr.matches_concat]
  simp only [Expr.inTurn_cons, inTurn_signature, matches_leadingWord]
  constructor
  · rintro ⟨mid, hlead, mid', ⟨hholds, rfl⟩, s, hs, hcross⟩
    have hbefore := (boundary_signature hs hcross).mp hholds
    rcases hlead with rfl | ⟨hstart, word, blanks, hne, hword, hne', hblanks, hlead⟩
    · exact ⟨hbefore, [], s, Or.inl rfl, hs, hcross⟩
    · exact ⟨hstart, word ++ blanks, s, Or.inr ⟨word, blanks, rfl, hne, hword, hne', hblanks⟩, hs,
        Cursor.crosses_append.mpr ⟨mid', hlead, hcross⟩⟩
  · rintro ⟨hbefore, lead, s, hlead, hs, hcross⟩
    obtain ⟨mid, hfirst, hcross⟩ := Cursor.crosses_append.mp hcross
    refine ⟨mid, ?_, mid, ⟨(boundary_signature hs hcross).mpr ?_, rfl⟩, s, hs, hcross⟩
    · rcases hlead with rfl | ⟨word, blanks, rfl, hne, hword, hne', hblanks⟩
      · exact Or.inl (Cursor.crosses_nil.mp hfirst)
      · exact Or.inr ⟨hbefore, word, blanks, hne, hword, hne', hblanks, hfirst⟩
    · rw [hfirst.before_eq]
      rcases hlead with rfl | ⟨word, blanks, rfl, -, -, hne', hblanks⟩
      · simpa using hbefore
      · obtain ⟨more, c, rfl⟩ := (List.eq_nil_or_concat blanks).resolve_left hne'
        have hc : isGap c = true := hblanks c (by simp)
        simp [← List.append_assoc, isWord_of_isGap hc]

theorem ascending_gapSet : gapSet.Ascending :=
  CharSet.spaced_of_isChain (by decide) (by decide)

theorem ascending_word : Unicode.word.Ascending :=
  CharSet.spaced_of_isChain (by decide +kernel) (by decide +kernel)

theorem simple_run {chars : CharSet} (h : chars.Ascending) {least : Nat} :
    (Expr.rep least none true (.set false chars)).Simple :=
  ⟨h, Or.inl ⟨rfl, nofun⟩⟩

theorem simple_leadingWord : leadingWord.Simple := by
  have hparts : ∀ part ∈ [boundary, .rep 1 none true (.set false Unicode.word), blanks],
      part.Simple := by
    simp only [List.forall_mem_cons]
    exact ⟨trivial, simple_run ascending_word, simple_run ascending_gapSet, by simp⟩
  exact ⟨Expr.simple_concat hparts, Or.inr ⟨rfl, rfl⟩⟩

theorem simple_headerOf (name : List Char) : (headerOf name).Simple := by
  have hletters : ∀ word, ∀ part ∈ anyCase word, part.Simple := by
    intro word part hpart
    obtain ⟨k, -, rfl⟩ := List.mem_map.mp hpart
    exact Expr.simple_ofSet (ascending_caseClosure k)
  rw [headerOf_eq]
  refine Expr.simple_concat ?_
  simp only [List.forall_mem_append, List.forall_mem_cons]
  exact ⟨simple_leadingWord, trivial, hletters _, ⟨simple_run ascending_gapSet, by simp⟩,
    hletters name, simple_run ascending_gapSet, List.cons_ne_nil _ _,
    simple_run (CharSet.spaced_of_isChain (by decide) (by decide)), List.cons_ne_nil _ _, by simp⟩

end Expression

/-! ## The search for a header -/

namespace NamedHeader

variable {h : NamedHeader} {name text : List Char}

/-- The first header in a text of a function with the name. -/
structure First (h : NamedHeader) (name text : List Char) : Prop where
  header : h.In name text
  leftmost : ∀ h' : NamedHeader, h'.In name text → h.start ≤ h'.start

/-- The expression matches a header. -/
theorem In.matches (hin : h.In name text) : ∃ rest b, text = h.before ++ rest ∧
    (headerOf name).Matches (.between h.before rest) b ∧ b.offset = h.stop := by
  have hcross : (Cursor.between h.before (h.lead ++ (h.signature.text ++ h.after))).Crosses
      (h.lead ++ h.signature.text)
      ((Cursor.between h.before []).move (h.lead ++ h.signature.text) h.after) :=
    ⟨h.after, by simp [Cursor.between], rfl⟩
  exact ⟨_, _, hin.text_eq,
    matches_headerOf.mpr ⟨hin.boundary, h.lead, h.signature, hin.lead, hin.calls, hcross⟩, rfl⟩

/-- What the expression matches is a header. -/
theorem exists_of_matches {before rest : List Char} {b : Cursor}
    (hmatch : (headerOf name).Matches (.between before rest) b) :
    ∃ h : NamedHeader, h.In name (before ++ rest) ∧ h.before = before ∧ h.stop = b.offset := by
  obtain ⟨hboundary, lead, s, hlead, hs, after, hrest, rfl⟩ := matches_headerOf.mp hmatch
  have hrest : rest = lead ++ (s.text ++ after) := hrest.trans (List.append_assoc ..)
  exact ⟨⟨before, lead, s, after⟩, ⟨by rw [hrest], hboundary, hlead, hs⟩, rfl, rfl⟩

/-- The search for a header finds the first one, and fails only where there is none. -/
theorem findFrom_headerOf (name text : List Char) :
    ((headerOf name).plain.findFrom text 0 = none → ∀ h : NamedHeader, ¬ h.In name text) ∧
    ∀ m, (headerOf name).plain.findFrom text 0 = some m →
      ∃ h : NamedHeader, h.First name text ∧ m.span = ⟨h.start, h.stop⟩ := by
  obtain ⟨hnone, hsome⟩ := Expr.findFrom_plain (simple_headerOf name) text
  constructor
  · intro hnotFound h hin
    obtain ⟨rest, b, htext, hmatch, -⟩ := hin.matches
    exact hnone hnotFound h.before rest b htext hmatch
  · intro m hm
    obtain ⟨before, rest, b, htext, hmatch, hspan, hleftmost⟩ := hsome m hm
    obtain ⟨h, hin, rfl, hstop⟩ := exists_of_matches hmatch
    refine ⟨h, ⟨htext ▸ hin, fun h' hin' => ?_⟩, by rw [hspan, hstop]; rfl⟩
    obtain ⟨rest', b', htext', hmatch', -⟩ := hin'.matches
    obtain ⟨more, hmore⟩ : h.before <+: h'.before := List.prefix_of_prefix_length_le
      ⟨rest, htext.symm⟩ ⟨rest', htext'.symm⟩ (hleftmost _ rest' b' htext' hmatch')
    rw [start, start, ← hmore, Text.byteLength_append]
    exact Nat.le_add_right _ _

/-- The search for a header finds just what the first one spans. -/
theorem First.findFrom_eq (hfirst : h.First name text) :
    ∃ m, (headerOf name).plain.findFrom text 0 = some m ∧ m.span = ⟨h.start, h.stop⟩ := by
  obtain ⟨hnone, hsome⟩ := findFrom_headerOf name text
  cases hfound : (headerOf name).plain.findFrom text 0 with
  | none => exact absurd hfirst.header (hnone hfound h)
  | some m =>
    obtain ⟨h', hfirst', hspan⟩ := hsome m hfound
    have hstart : h.start = h'.start :=
      le_antisymm (hfirst.leftmost h' hfirst'.header) (hfirst'.leftmost h hfirst.header)
    obtain ⟨-, hstop⟩ := hfirst.header.ends hfirst'.header hstart
    exact ⟨m, rfl, by rw [hspan, hstart, hstop]⟩

end NamedHeader

end ProgramOutline
