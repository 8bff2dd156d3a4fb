import ProgramOutline.Proofs.Grammar.Trees
import ProgramOutline.Proofs.Regex.LineMatches

/-!
# The grammar of variable declarations

A variable line is an indent, the word for the scope, and the name of the variable. What follows the
name is of no account.

Results:
* `VariableLine.reader`: the grammar as a line reader.
* `VariableLine.tree_reads`: the search tree of the default rule matches at a line start exactly
  what the grammar reads there.
-/

namespace ProgramOutline.Grammar

open Regex Unicode

/-- The words for the scope of a variable. -/
def scopes : List (List Char) :=
  ["Local".toList, "Private".toList, "Public".toList, "Static".toList]

theorem scopes_letters : ∀ word ∈ scopes, ∀ k ∈ word, IsLetter k := by
  have hall : ∀ word ∈ scopes, word.all (fun c => decide (IsLetter c)) = true := by decide
  intro word hword
  exact isLetter_of_all (hall word hword)

theorem scopes_clash : scopes.Pairwise Clash := by decide

/-- A variable line, up to the name. -/
structure VariableLine where
  indent : List Char
  scope : List Char
  gap : List Char
  name : List Char

namespace VariableLine

/-- The text of a variable line. -/
def text (line : VariableLine) : List Char :=
  line.indent ++ (line.scope ++ (line.gap ++ line.name))

/-- Where the scope stands in a variable line that starts at `offset`. -/
def scopeStart (line : VariableLine) (offset : Nat) : Nat :=
  offset + Text.byteLength line.indent

/-- Where the name stands in a variable line that starts at `offset`. -/
def nameStart (line : VariableLine) (offset : Nat) : Nat :=
  line.scopeStart offset + Text.byteLength line.scope + Text.byteLength line.gap

/-- The match for a variable line that starts at `offset`. -/
def toMatch (offset : Nat) (line : VariableLine) : Match :=
  ⟨⟨offset, offset + Text.byteLength line.text⟩,
    [(2, ⟨line.nameStart offset, line.nameStart offset + Text.byteLength line.name⟩),
      (1, ⟨line.scopeStart offset, line.scopeStart offset + Text.byteLength line.scope⟩)]⟩

/-- The tree of a variable line. -/
def tree : Tree :=
  .cat (.look .lineStart) <| .cat (.whole gapSet 0) <| .cat (.group 1 (wordsTree scopes)) <|
    .cat (.whole gapSet 1) <| .group 2 (.whole word 1)

end VariableLine

/-- Reads a variable line. -/
def variableLine? (text : List Char) : Option (VariableLine × List Char) := do
  let (scope, afterScope) ← oneOf? scopes (text.dropWhile isGap)
  let (gap, afterGap) ← run? isGap afterScope
  let (name, rest) ← run? isWord afterGap
  return (⟨text.takeWhile isGap, scope, gap, name⟩, rest)

theorem variableLine?_eq_some {text rest : List Char} {line : VariableLine}
    (h : variableLine? text = some (line, rest)) :
    line.indent = text.takeWhile isGap ∧ ∃ word ∈ scopes, ∃ text₁ text₂,
      word? word (text.dropWhile isGap) = some (line.scope, text₁) ∧
      run? isGap text₁ = some (line.gap, text₂) ∧ run? isWord text₂ = some (line.name, rest) := by
  simp only [variableLine?, Option.bind_eq_bind, Option.bind_eq_some_iff, Option.pure_def,
    Option.some.injEq, Prod.mk.injEq, Prod.exists] at h
  obtain ⟨scope, text₁, hscope, gap, text₂, hgap, name, rest, hname, rfl, rfl⟩ := h
  obtain ⟨word, hmem, hword⟩ := oneOf?_eq_some hscope
  exact ⟨rfl, word, hmem, text₁, text₂, hword, hgap, hname⟩

theorem variableLine?_split {text rest : List Char} {line : VariableLine}
    (h : variableLine? text = some (line, rest)) : text = line.text ++ rest := by
  obtain ⟨hindent, word, -, text₁, text₂, hword, hgap, hname⟩ := variableLine?_eq_some h
  calc text = text.takeWhile isGap ++ text.dropWhile isGap :=
        List.takeWhile_append_dropWhile.symm
    _ = line.text ++ rest := by
        rw [word?_split hword, run?_split hgap, run?_split hname, ← hindent, VariableLine.text]
        simp only [List.append_assoc]

/-- Variable lines as items of a scan. -/
def VariableLine.reader : LineReader VariableLine where
  read? := variableLine?
  taken := VariableLine.text
  split := variableLine?_split
  inLine {text line rest} h := by
    obtain ⟨-, _, -, _, _, -, -, hname⟩ := variableLine?_eq_some h
    have hne := (run?_eq_some hname).2.2
    refine ⟨line.name.getLast hne, ?_, ?_⟩
    · simp [VariableLine.text, List.getLast?_eq_some_getLast hne]
    · intro hbreak
      have hword := forall_of_run? hname _ (List.getLast_mem hne)
      rw [hbreak] at hword
      exact absurd (isBlank_of_isWord hword) (by decide)

theorem VariableLine.spans : Tree.Spans VariableLine.reader VariableLine.toMatch := fun _ _ => rfl

/-- The tree matches at a line start exactly what the grammar reads there. -/
theorem VariableLine.tree_reads :
    VariableLine.tree.Reads VariableLine.reader VariableLine.toMatch := by
  apply Tree.reads_of_first (by decide)
  intro cur
  have hne : scopes ≠ [] := by decide
  rw [Tree.first?, ways_span_cat, contains_gapSet,
    ways_cat (ways_group (ways_words hne scopes_letters scopes_clash _) 1), moved_cursor,
    Cursor.move_rest]
  simp only [VariableLine.reader, variableLine?, Option.bind_eq_bind]
  rcases oneOf? scopes (cur.rest.dropWhile isGap) with - | ⟨scope, text₁⟩
  · rfl
  rw [Option.elim_some, ways_cat (ways_whole_one ..), contains_gapSet, captured_cursor,
    Cursor.move_rest, Option.bind_some]
  dsimp only
  rcases run? isGap text₁ with - | ⟨gap, text₂⟩
  · rfl
  rw [Option.elim_some, ways_group (ways_whole_one ..) 2, contains_word, moved_cursor,
    Cursor.move_rest, Option.bind_some]
  dsimp only
  rcases run? isWord text₂ with - | ⟨name, rest⟩
  · rfl
  simp [captured, moved, VariableLine.toMatch, VariableLine.text, VariableLine.nameStart,
    VariableLine.scopeStart, Nat.add_assoc]

end ProgramOutline.Grammar
