import ProgramOutline.Body
import ProgramOutline.Parameters
import ProgramOutline.Text.Lines

/-!
# Extraction

The functions of a text, grouped by the rule that found them and in order within each group. The
body of a function must end before the next function of any rule.
-/

namespace ProgramOutline

/-- Rules together with the way parameters are typed. -/
structure Extractor where
  rules : Rules := {}
  options : TypingOptions := {}

namespace Extractor

/-- The headers that each function rule finds. -/
def headers (rules : Rules) (text : List Char) : List (FunctionRule × Header) :=
  rules.functionRules.flatMap (fun (rule, pattern) =>
    (scanHeaders pattern text).map (fun header => (rule, header)))

/-- The offsets at which functions of any rule are declared. -/
def declarations (found : List (FunctionRule × Header)) : Array Nat :=
  Ascending.ofList (found.map (fun (_, header) => header.offset))

/-- The variables of a function, given the offsets of all functions. -/
def variablesOf (rules : Rules) (text : List Char) (offsets : Array Nat) (header : Header) :
    List Variable :=
  match rules.vars with
  | none => []
  | some rule =>
    match findBody text header.offset header.stop (Ascending.above? offsets header.offset) with
    | none => []
    | some body => scanVariables rule text body.bodyStart body.stop

/-- The functions of a text. -/
def run (extractor : Extractor) (text : List Char) : List FunctionSymbol :=
  let found := headers extractor.rules text
  let offsets := declarations found
  let lines := LineIndex.ofText text
  found.map (fun (rule, header) => {
    id := identity rule header.name header.offset
    kind := .function
    name := header.name
    qualifier := header.qualifier
    rule
    parameters := Parameters.parse extractor.options header.parameters.toList
    vars := variablesOf extractor.rules text offsets header
    line := lines.lineOf header.offset
    offset := header.offset })

/-- The functions of a document, of which there may be none. -/
def runOptional (extractor : Extractor) : Option (List Char) → List FunctionSymbol
  | none => []
  | some text => extractor.run text

end Extractor

end ProgramOutline
