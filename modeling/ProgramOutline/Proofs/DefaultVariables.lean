import ProgramOutline.Proofs.DefaultHeaders
import ProgramOutline.Proofs.Grammar.Variable

/-!
# The variables that the default rule finds

The default variable rule finds the variable lines between the end of a header and the end of its
body.

Results:
* `scanVariables_variablePattern`: the variables that it finds are those of the variable lines.
* `compile_default`, `headers_default`: the default rules are those of header lines and variable
  lines.
-/

namespace ProgramOutline

open Regex Grammar Unicode

/-- The default variable rule. -/
def variablePattern : Pattern := ⟨defaultVariableRule, 2, [], VariableLine.tree⟩

theorem compile_defaultVariableRule : compile? defaultVariableRule = some variablePattern := by
  decide +kernel

theorem compileRule_vars_default :
    compileRule .vars (some defaultVariableRule) = .ok (some variablePattern) :=
  compileRule_of_compile (by decide) compile_defaultVariableRule (by decide)

/-- The default rules. -/
theorem Rules.compile_default :
    Rules.compile {} = { generic := some headerPattern, vars := some variablePattern } := by
  simp only [Rules.compile, RuleTexts.get, compileRule_default, compileRule_vars_default]
  rfl

theorem Rules.vars_default : (Rules.compile {}).vars = some variablePattern := by
  rw [Rules.compile_default]

/-- With the default rules all headers are those of the grammar. -/
theorem headers_default (text : List Char) :
    Extractor.headers (Rules.compile {}) text =
      (headerScan text).map (fun header => (.generic, header)) := by
  have hrules : (Rules.compile {}).functionRules = [(.generic, headerPattern)] := by
    rw [Rules.compile_default]
    rfl
  rw [Extractor.headers, hrules, List.flatMap_singleton]
  dsimp only
  rw [scanHeaders_headerPattern]

/-! ## From matches to variables -/

/-- The variable of a variable line. -/
def Grammar.VariableLine.variable (line : VariableLine) : Variable :=
  ⟨String.ofList line.scope, String.ofList line.name⟩

section Groups

variable (before rest : List Char) (line : VariableLine)

theorem variableName_group :
    (line.toMatch (Text.byteLength before)).groupText? (before ++ line.text ++ rest) 2 =
      some line.name := by
  have hgroup : (line.toMatch (Text.byteLength before)).group? 2 =
      some ⟨line.nameStart (Text.byteLength before),
        line.nameStart (Text.byteLength before) + Text.byteLength line.name⟩ := rfl
  apply Match.groupText?_eq (before ++ line.indent ++ line.scope ++ line.gap) line.name rest hgroup
  · simp [VariableLine.text]
  · simp [VariableLine.nameStart, VariableLine.scopeStart, Nat.add_assoc]
  · rfl

theorem scope_group :
    (line.toMatch (Text.byteLength before)).groupText? (before ++ line.text ++ rest) 1 =
      some line.scope := by
  have hgroup : (line.toMatch (Text.byteLength before)).group? 1 =
      some ⟨line.scopeStart (Text.byteLength before),
        line.scopeStart (Text.byteLength before) + Text.byteLength line.scope⟩ := rfl
  apply Match.groupText?_eq (before ++ line.indent) line.scope (line.gap ++ line.name ++ rest)
    hgroup
  · simp [VariableLine.text]
  · simp [VariableLine.scopeStart]
  · rfl

end Groups

/-- The match for a variable line declares the variable of that line. -/
theorem Variable.ofMatch?_toMatch {before rest : List Char} {line : VariableLine}
    (h : variableLine? (line.text ++ rest) = some (line, rest)) :
    Variable.ofMatch? (before ++ line.text ++ rest) (line.toMatch (Text.byteLength before)) =
      some line.variable := by
  obtain ⟨-, word, hmem, text₁, text₂, hword, -, hname⟩ := variableLine?_eq_some h
  have hscope : ∀ c ∈ line.scope, Text.isBlank c = false := by
    intro c hc
    exact isBlank_of_word? (scopes_letters word hmem) hword hc
  have hink : ∀ c ∈ line.name, Text.isBlank c = false := by
    intro c hc
    exact isBlank_of_isWord (forall_of_run? hname c hc)
  have hne : line.name ≠ [] := (run?_eq_some hname).2.2
  rw [Variable.ofMatch?, variableName_group, scope_group]
  simp [Text.trim_of_isBlank hink, Text.trim_of_isBlank hscope, hne, VariableLine.variable]

/-! ## The variables of a body -/

/-- The variables of a text from `start` on, by the grammar. -/
def variableScan (text : List Char) (start : Nat) : List Variable :=
  (VariableLine.reader.scan start true 0 text).map (fun found => found.2.variable)

/-- The default rule matches the variable lines. -/
theorem declarations_variablePattern (text : List Char) (start : Nat) :
    variablePattern.declarations text start =
      (VariableLine.reader.scan start true 0 text).map (fun found => found.2.toMatch found.1) :=
  VariableLine.tree_reads.declarations_eq VariableLine.spans rfl text start

theorem scanVariables_variablePattern (text : List Char) (bodyStart stop : Nat) :
    scanVariables variablePattern text bodyStart stop =
      variableScan (Text.takeBytes stop text) bodyStart := by
  rw [scanVariables, declarations_variablePattern, List.filterMap_map, variableScan]
  apply VariableLine.reader.filterMap_scan
  intro before line rest htext hread
  rw [Function.comp_apply, htext]
  exact Variable.ofMatch?_toMatch hread

end ProgramOutline
