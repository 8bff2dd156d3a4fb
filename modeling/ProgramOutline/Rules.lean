import ProgramOutline.Regex.Pattern
import ProgramOutline.Symbol.Basic

/-!
# Rules

A rule is a pattern that finds one kind of symbol. The groups of a function rule are the qualifier,
the name and the text of the parameters; those of the variable rule are the scope and the name.

Rules are configured as texts (`RuleTexts`). A missing or blank text is no rule. `Rules.compile`
leaves a broken rule out, `Rules.compileAll` reports the first one.
-/

namespace ProgramOutline

/-- The places for a rule in a configuration. -/
inductive RuleSlot where
  | function (rule : FunctionRule)
  | vars
  deriving DecidableEq

namespace RuleSlot

/-- The configuration key of a place. -/
def key : RuleSlot → String
  | function rule => rule.key
  | vars => "variables"

/-- The number of groups that a rule must have. -/
def groups : RuleSlot → Nat
  | function _ => 3
  | vars => 2

/-- All places in the order in which they are checked. -/
def all : List RuleSlot := FunctionRule.all.map function ++ [vars]

end RuleSlot

/-- Finds every function header, with or without a qualifier. -/
def defaultFunctionRule : String :=
  r"(?m)^[ \t]*(?:(Static|User|Main|Template|Project|Web)[ \t]+)?Function[ \t]+(\w+)[ \t]*\(([^)]*)\)"

/-- Finds variable declarations at the start of a line. -/
def defaultVariableRule : String :=
  r"(?m)^[ \t]*(Local|Private|Public|Static)[ \t]+(\w+)"

/-- The texts of the configured rules. -/
structure RuleTexts where
  generic : Option String := some defaultFunctionRule
  static : Option String := none
  user : Option String := none
  vars : Option String := some defaultVariableRule
  deriving DecidableEq

/-- The text for a place. -/
def RuleTexts.get (texts : RuleTexts) : RuleSlot → Option String
  | .function .generic => texts.generic
  | .function .static => texts.static
  | .function .user => texts.user
  | .vars => texts.vars

/-- Why a text cannot serve as a rule. -/
inductive RuleError where
  /-- The text is not a pattern. -/
  | malformed (slot : RuleSlot)
  /-- The pattern has too few groups. -/
  | missingGroups (slot : RuleSlot) (found : Nat)
  deriving DecidableEq

namespace RuleError

/-- The place of the rule that is broken. -/
def slot : RuleError → RuleSlot
  | malformed slot => slot
  | missingGroups slot _ => slot

/-- The text of the error for a rule with too few groups. -/
def groupsMessage (slot : RuleSlot) (found : Nat) : String :=
  "Pattern for '" ++ slot.key ++ "' needs " ++ String.ofList (Text.decimal slot.groups) ++
    " capture groups, found " ++ String.ofList (Text.decimal found)

end RuleError

/-- The text of a rule, unless it is blank. -/
def ruleText? (text : Option String) : Option String :=
  text.filter (fun t => !(Text.trim t.toList).isEmpty)

/-- Makes a rule for a place. A missing or blank text gives no rule. -/
def compileRule (slot : RuleSlot) (text : Option String) :
    Except RuleError (Option Regex.Pattern) :=
  match ruleText? text with
  | none => .ok none
  | some source =>
    match Regex.compile? source with
    | none => .error (.malformed slot)
    | some pattern =>
      if pattern.groups < slot.groups then .error (.missingGroups slot pattern.groups)
      else .ok (some pattern)

/-- The rules in force, at most one for each place. -/
structure Rules where
  generic : Option Regex.Pattern := none
  static : Option Regex.Pattern := none
  user : Option Regex.Pattern := none
  vars : Option Regex.Pattern := none

namespace Rules

/-- The rule for a place. -/
def get (rules : Rules) : RuleSlot → Option Regex.Pattern
  | .function .generic => rules.generic
  | .function .static => rules.static
  | .function .user => rules.user
  | .vars => rules.vars

/-- The function rules in force, in the order of application. -/
def functionRules (rules : Rules) : List (FunctionRule × Regex.Pattern) :=
  FunctionRule.all.filterMap (fun rule => (rules.get (.function rule)).map (fun p => (rule, p)))

/-- The rules that are not broken. -/
def compile (texts : RuleTexts) : Rules :=
  let usable (slot : RuleSlot) : Option Regex.Pattern :=
    match compileRule slot (texts.get slot) with
    | .ok pattern => pattern
    | .error _ => none
  ⟨usable (.function .generic), usable (.function .static), usable (.function .user),
    usable .vars⟩

/-- All rules, or the error of the first broken one. -/
def compileAll (texts : RuleTexts) : Except RuleError Rules := do
  let strict (slot : RuleSlot) := compileRule slot (texts.get slot)
  return ⟨← strict (.function .generic), ← strict (.function .static), ← strict (.function .user),
    ← strict .vars⟩

end Rules

end ProgramOutline
