import ProgramOutline.Proofs.Grammar.Trees
import ProgramOutline.Proofs.Regex.LineMatches

/-!
# The grammar of function headers

A header line is an indent, a qualifier if there is one, the keyword `Function`, a name and a
parameter list up to the first closing parenthesis, which may stand on a later line.

Results:
* `HeaderLine.reader`: the grammar as a line reader.
* `HeaderLine.tree_reads`: the search tree of the default rule matches at a line start exactly what
  the grammar reads there.
-/

namespace ProgramOutline.Grammar

open Regex Unicode

/-- The words that may stand before the keyword. -/
def qualifiers : List (List Char) :=
  ["Static".toList, "User".toList, "Main".toList, "Template".toList, "Project".toList,
    "Web".toList]

/-- The keyword of a header. -/
def functionWord : List Char := "Function".toList

theorem qualifiers_letters : ∀ word ∈ qualifiers, ∀ k ∈ word, IsLetter k := by
  have hall : ∀ word ∈ qualifiers, word.all (fun c => decide (IsLetter c)) = true := by decide
  intro word hword
  exact isLetter_of_all (hall word hword)

theorem functionWord_letters : ∀ k ∈ functionWord, IsLetter k := isLetter_of_all (by decide)

theorem qualifiers_clash : qualifiers.Pairwise Clash := by decide

theorem functionWord_clash : ∀ word ∈ qualifiers, Clash word functionWord := by decide

theorem contains_notClose : (allBut 41).contains = (fun c => c != ')') :=
  contains_allBut (by decide : 0 < ')'.toNat)

/-! ## Signatures -/

/-- A header from its keyword on. -/
structure Signature where
  keyword : List Char
  gap : List Char
  name : List Char
  space : List Char
  parameters : List Char

namespace Signature

/-- The text of a signature. -/
def text (s : Signature) : List Char :=
  s.keyword ++ (s.gap ++ (s.name ++ (s.space ++ '(' :: (s.parameters ++ [')']))))

/-- Where the name stands in a signature that starts at `offset`. -/
def nameStart (s : Signature) (offset : Nat) : Nat :=
  offset + Text.byteLength s.keyword + Text.byteLength s.gap

/-- Where the parameters stand in a signature that starts at `offset`. -/
def parametersStart (s : Signature) (offset : Nat) : Nat :=
  s.nameStart offset + Text.byteLength s.name + Text.byteLength s.space + 1

/-- The groups of a signature that starts at `offset`. -/
def groups (s : Signature) (offset : Nat) : List (Nat × Span) :=
  [(3, ⟨s.parametersStart offset, s.parametersStart offset + Text.byteLength s.parameters⟩),
    (2, ⟨s.nameStart offset, s.nameStart offset + Text.byteLength s.name⟩)]

end Signature

/-- Reads a signature. -/
def signature? (text : List Char) : Option (Signature × List Char) := do
  let (keyword, text) ← word? functionWord text
  let (gap, text) ← run? isGap text
  let (name, text) ← run? isWord text
  let space := text.takeWhile isGap
  let text ← sign? '(' (text.dropWhile isGap)
  let parameters := text.takeWhile (· != ')')
  let text ← sign? ')' (text.dropWhile (· != ')'))
  return (⟨keyword, gap, name, space, parameters⟩, text)

/-- The tree of a signature. -/
def Signature.tree : Tree :=
  wordThen functionWord <| .cat (.whole gapSet 1) <| .cat (.group 2 (.whole word 1)) <|
    .cat (.whole gapSet 0) <| .cat (.literal ['(']) <| .cat (.group 3 (.whole (allBut 41) 0)) <|
    .literal [')']

theorem signature?_eq_some {text rest : List Char} {s : Signature}
    (h : signature? text = some (s, rest)) :
    ∃ text₁ text₂ text₃ text₄,
      word? functionWord text = some (s.keyword, text₁) ∧
      run? isGap text₁ = some (s.gap, text₂) ∧ run? isWord text₂ = some (s.name, text₃) ∧
      s.space = text₃.takeWhile isGap ∧ text₃.dropWhile isGap = '(' :: text₄ ∧
      s.parameters = text₄.takeWhile (· != ')') ∧ text₄.dropWhile (· != ')') = ')' :: rest := by
  simp only [signature?, Option.bind_eq_bind, Option.bind_eq_some_iff, Option.pure_def,
    Option.some.injEq, Prod.mk.injEq, Prod.exists, sign?_eq_some_iff] at h
  obtain ⟨keyword, text₁, h₁, gap, text₂, h₂, name, text₃, h₃, text₄, h₄, rest, h₅, rfl, rfl⟩ := h
  exact ⟨text₁, text₂, text₃, text₄, h₁, h₂, h₃, rfl, h₄, rfl, h₅⟩

theorem signature?_split {text rest : List Char} {s : Signature}
    (h : signature? text = some (s, rest)) : text = s.text ++ rest := by
  obtain ⟨text₁, text₂, text₃, text₄, h₁, h₂, h₃, hspace, h₄, hparameters, h₅⟩ :=
    signature?_eq_some h
  have hthree : text₃ = s.space ++ '(' :: text₄ := by
    rw [hspace, ← h₄, List.takeWhile_append_dropWhile]
  have hfour : text₄ = s.parameters ++ ')' :: rest := by
    rw [hparameters, ← h₅, List.takeWhile_append_dropWhile]
  rw [word?_split h₁, run?_split h₂, run?_split h₃, hthree, hfour]
  simp [Signature.text]

theorem Signature.ways_tree (p : Progress) :
    Signature.tree.ways p =
      ((signature? p.cursor.rest).map (fun found =>
        (⟨p.cursor.move found.1.text found.2,
          found.1.groups p.cursor.offset ++ p.groups⟩ : Progress))).toList := by
  rw [Signature.tree, ways_wordThen functionWord_letters]
  simp only [signature?, Option.bind_eq_bind]
  -- each part is read or missing, in the tree as in the reader
  rcases word? functionWord p.cursor.rest with - | ⟨keyword, text₁⟩
  · rfl
  rw [Option.toList_some, List.flatMap_singleton, ways_cat (ways_whole_one ..), contains_gapSet,
    moved_cursor, Cursor.move_rest, Option.bind_some]
  dsimp only
  rcases run? isGap text₁ with - | ⟨gap, text₂⟩
  · rfl
  rw [Option.elim_some, ways_cat (ways_group (ways_whole_one ..) 2), contains_word, moved_cursor,
    Cursor.move_rest, Option.bind_some]
  dsimp only
  rcases run? isWord text₂ with - | ⟨name, text₃⟩
  · rfl
  rw [Option.elim_some, ways_span_cat, ways_sign_cat, contains_gapSet, moved_cursor,
    captured_cursor, Cursor.move_rest, Cursor.move_rest, Option.bind_some]
  dsimp only
  rcases sign? '(' (text₃.dropWhile isGap) with - | text₄
  · rfl
  rw [Option.elim_some, ways_group_span_cat, ways_sign, contains_notClose, captured_cursor,
    moved_cursor, Cursor.move_rest, Cursor.move_rest, Option.bind_some]
  dsimp only
  rcases sign? ')' (text₄.dropWhile (· != ')')) with - | rest
  · rfl
  have hparen : '('.utf8Size = 1 := rfl
  simp [moved, captured, Signature.text, Signature.groups, Signature.nameStart,
    Signature.parametersStart]
  omega

/-! ## Header lines -/

/-- A qualifier and the gap after it. -/
structure Qualifier where
  word : List Char
  gap : List Char

/-- The text of a qualifier. -/
def Qualifier.text (q : Qualifier) : List Char := q.word ++ q.gap

/-- Reads a qualifier. -/
def qualifier? (text : List Char) : Option (Qualifier × List Char) := do
  let (word, text) ← oneOf? qualifiers text
  let (gap, text) ← run? isGap text
  return (⟨word, gap⟩, text)

/-- The tree of a qualifier. -/
def Qualifier.tree : Tree := .cat (.group 1 (wordsTree qualifiers)) (.whole gapSet 1)

theorem qualifier?_eq_some {text rest : List Char} {q : Qualifier}
    (h : qualifier? text = some (q, rest)) :
    ∃ word ∈ qualifiers, ∃ text₁,
      word? word text = some (q.word, text₁) ∧ run? isGap text₁ = some (q.gap, rest) := by
  simp only [qualifier?, Option.bind_eq_bind, Option.bind_eq_some_iff, Option.pure_def,
    Option.some.injEq, Prod.mk.injEq, Prod.exists] at h
  obtain ⟨taken, text₁, h₁, gap, rest, h₂, rfl, rfl⟩ := h
  obtain ⟨word, hword, h₁⟩ := oneOf?_eq_some h₁
  exact ⟨word, hword, text₁, h₁, h₂⟩

theorem qualifier?_split {text rest : List Char} {q : Qualifier}
    (h : qualifier? text = some (q, rest)) : text = q.text ++ rest := by
  obtain ⟨word, -, text₁, h₁, h₂⟩ := qualifier?_eq_some h
  rw [word?_split h₁, run?_split h₂, Qualifier.text, List.append_assoc]

/-- Where there is a qualifier, there is no keyword. -/
theorem signature?_of_qualifier? {text rest : List Char} {q : Qualifier}
    (h : qualifier? text = some (q, rest)) : signature? text = none := by
  obtain ⟨word, hword, text₁, h₁, -⟩ := qualifier?_eq_some h
  rw [signature?, word?_of_clash (functionWord_clash word hword) h₁]
  rfl

theorem Qualifier.ways_tree (p : Progress) :
    Qualifier.tree.ways p =
      ((qualifier? p.cursor.rest).map (fun found =>
        (⟨p.cursor.move found.1.text found.2,
          (1, ⟨p.cursor.offset, p.cursor.offset + Text.byteLength found.1.word⟩) ::
            p.groups⟩ : Progress))).toList := by
  have hne : qualifiers ≠ [] := by decide
  rw [Qualifier.tree,
    ways_cat (ways_group (ways_words hne qualifiers_letters qualifiers_clash p) 1)]
  simp only [qualifier?, Option.bind_eq_bind]
  rcases oneOf? qualifiers p.cursor.rest with - | ⟨taken, text₁⟩
  · rfl
  rw [Option.elim_some, ways_whole_one, contains_gapSet, captured_cursor, Cursor.move_rest,
    Option.bind_some]
  dsimp only
  rcases run? isGap text₁ with - | ⟨gap, rest⟩
  · rfl
  simp [moved, captured, Qualifier.text]

/-- A header line, up to the parenthesis that closes it. -/
structure HeaderLine where
  indent : List Char
  qualifier : Option Qualifier
  signature : Signature

namespace HeaderLine

/-- What stands before the keyword. -/
def head (line : HeaderLine) : List Char := line.indent ++ line.qualifier.elim [] Qualifier.text

/-- The text of a header line. -/
def text (line : HeaderLine) : List Char := line.head ++ line.signature.text

/-- The group of the qualifier in a header line that starts at `offset`. -/
def qualifierGroup (line : HeaderLine) (offset : Nat) : List (Nat × Span) :=
  let start := offset + Text.byteLength line.indent
  line.qualifier.elim [] (fun q => [(1, ⟨start, start + Text.byteLength q.word⟩)])

/-- The match for a header line that starts at `offset`. -/
def toMatch (offset : Nat) (line : HeaderLine) : Match :=
  ⟨⟨offset, offset + Text.byteLength line.text⟩,
    line.signature.groups (offset + Text.byteLength line.head) ++ line.qualifierGroup offset⟩

/-- The tree of a header line. -/
def tree : Tree :=
  .cat (.look .lineStart) <| .cat (.whole gapSet 0) <| .cat (.alt none Qualifier.tree .empty)
    Signature.tree

end HeaderLine

/-- Reads a qualifier if there is one. -/
def optionalQualifier (text : List Char) : Option Qualifier × List Char :=
  match qualifier? text with
  | some (q, rest) => (some q, rest)
  | none => (none, text)

/-- Reads a header line. -/
def headerLine? (text : List Char) : Option (HeaderLine × List Char) := do
  let (qualifier, afterQualifier) := optionalQualifier (text.dropWhile isGap)
  let (signature, rest) ← signature? afterQualifier
  return (⟨text.takeWhile isGap, qualifier, signature⟩, rest)

theorem optionalQualifier_split (text : List Char) :
    text = (optionalQualifier text).1.elim [] Qualifier.text ++ (optionalQualifier text).2 := by
  rw [optionalQualifier]
  split
  · rename_i h
    exact qualifier?_split h
  · rfl

theorem headerLine?_eq_some {text rest : List Char} {line : HeaderLine}
    (h : headerLine? text = some (line, rest)) :
    line.indent = text.takeWhile isGap ∧
      line.qualifier = (optionalQualifier (text.dropWhile isGap)).1 ∧
      signature? (optionalQualifier (text.dropWhile isGap)).2 = some (line.signature, rest) := by
  simp only [headerLine?, Option.bind_eq_bind, Option.bind_eq_some_iff, Option.pure_def,
    Option.some.injEq, Prod.mk.injEq, Prod.exists] at h
  obtain ⟨signature, rest, h, rfl, rfl⟩ := h
  exact ⟨rfl, rfl, h⟩

theorem headerLine?_split {text rest : List Char} {line : HeaderLine}
    (h : headerLine? text = some (line, rest)) : text = line.text ++ rest := by
  obtain ⟨hindent, hqualifier, hsignature⟩ := headerLine?_eq_some h
  calc text = text.takeWhile isGap ++ text.dropWhile isGap :=
        List.takeWhile_append_dropWhile.symm
    _ = line.indent ++ (line.qualifier.elim [] Qualifier.text ++
          (optionalQualifier (text.dropWhile isGap)).2) := by
        rw [hindent, hqualifier, ← optionalQualifier_split]
    _ = line.text ++ rest := by
        rw [signature?_split hsignature, HeaderLine.text, HeaderLine.head]
        simp only [List.append_assoc]

/-- Header lines as items of a scan. -/
def HeaderLine.reader : LineReader HeaderLine where
  read? := headerLine?
  taken := HeaderLine.text
  split := headerLine?_split
  inLine _ := ⟨')', by simp [HeaderLine.text, Signature.text, List.getLast?_cons], by decide⟩

theorem HeaderLine.spans : Tree.Spans HeaderLine.reader HeaderLine.toMatch := fun _ _ => rfl

/-- The choice of a qualifier and the signature after it. If there is a qualifier, the signature
    cannot be read in its place. -/
theorem ways_optionalQualifier (p : Progress) :
    (Tree.cat (.alt none Qualifier.tree .empty) Signature.tree).ways p =
      Signature.tree.ways
        ⟨p.cursor.move ((optionalQualifier p.cursor.rest).1.elim [] Qualifier.text)
            (optionalQualifier p.cursor.rest).2,
          (optionalQualifier p.cursor.rest).1.elim [] (fun q =>
            [(1, ⟨p.cursor.offset, p.cursor.offset + Text.byteLength q.word⟩)]) ++ p.groups⟩ := by
  rw [Tree.ways_cat, Tree.ways_alt, Qualifier.ways_tree, Tree.ways_empty, List.flatMap_append,
    List.flatMap_singleton, optionalQualifier]
  rcases h : qualifier? p.cursor.rest with - | ⟨q, rest⟩
  · rfl
  · have hsignature : Signature.tree.ways p = [] := by
      rw [Signature.ways_tree, signature?_of_qualifier? h]
      rfl
    rw [hsignature, List.append_nil]
    exact List.flatMap_singleton ..

/-- The tree matches at a line start exactly what the grammar reads there. -/
theorem HeaderLine.tree_reads :
    HeaderLine.tree.Reads HeaderLine.reader HeaderLine.toMatch := by
  apply Tree.reads_of_first (by decide)
  intro cur
  rw [Tree.first?, ways_span_cat, contains_gapSet, ways_optionalQualifier, Signature.ways_tree,
    moved_cursor, Cursor.move_rest]
  simp only [HeaderLine.reader, headerLine?, Option.bind_eq_bind, Cursor.move_rest]
  rcases signature? (optionalQualifier (cur.rest.dropWhile isGap)).2 with - | ⟨signature, rest⟩
  · rfl
  · simp [HeaderLine.toMatch, HeaderLine.text, HeaderLine.head, HeaderLine.qualifierGroup,
      Nat.add_assoc]

end ProgramOutline.Grammar
