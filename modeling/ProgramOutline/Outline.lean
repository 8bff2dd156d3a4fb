import ProgramOutline.Json.Writer
import ProgramOutline.Symbol.Data

/-!
# Outlines

An outline has a node for each function, with its line, and below it leaves for its parameters and
then its variables. It is rendered as indented text or as JSON.
-/

namespace ProgramOutline

/-- An entry below a function. -/
structure OutlineLeaf where
  label : String
  kind : SymbolKind
  deriving DecidableEq

/-- The entry of a function. -/
structure OutlineNode where
  label : String
  line : UInt32
  leaves : List OutlineLeaf
  deriving DecidableEq

namespace Outline

/-- The node of a function. -/
def node (f : FunctionSymbol) : OutlineNode :=
  ⟨f.name, f.line, f.parameters.map (fun p => ⟨p.label, .parameter⟩) ++
    f.vars.map (fun v => ⟨v.label, .var⟩)⟩

/-- The outline of a list of functions. -/
def ofFunctions (functions : List FunctionSymbol) : List OutlineNode := functions.map node

/-! ## Text -/

/-- The line of a leaf. -/
def leafText (leaf : OutlineLeaf) : String := "  " ++ leaf.label ++ "\n"

/-- The line of a function and those of its leaves. -/
def nodeText (n : OutlineNode) : String :=
  n.label ++ " (line " ++ String.ofList (Text.decimal n.line.toNat) ++ ")\n" ++
    String.join (n.leaves.map leafText)

/-- An outline as indented text, one entry a line. -/
def renderText (nodes : List OutlineNode) : String := String.join (nodes.map nodeText)

/-! ## Data and JSON -/

/-- A leaf as data. -/
def leafData (leaf : OutlineLeaf) : Data :=
  .table [("label", .str leaf.label), ("kind", leaf.kind.toData), ("icon", .str leaf.kind.icon),
    ("collapsible", .bool false)]

/-- A node as data; the children are left out if there are none. -/
def nodeData (n : OutlineNode) : Data :=
  let children := if n.leaves.isEmpty then [] else [("children", .list (n.leaves.map leafData))]
  .table ([("label", .str n.label), ("kind", SymbolKind.function.toData),
    ("icon", .str SymbolKind.function.icon), ("lineNumber", .int n.line.toNat),
    ("collapsible", .bool true)] ++ children)

/-- An outline as data. -/
def toData (nodes : List OutlineNode) : Data := .list (nodes.map nodeData)

/-- An outline as JSON. -/
def renderJson (nodes : List OutlineNode) : String :=
  String.ofList (Json.pretty 0 (toData nodes))

/-- The outline of a list of functions in the chosen format. -/
def render (json : Bool) (functions : List FunctionSymbol) : String :=
  if json then renderJson (ofFunctions functions) else renderText (ofFunctions functions)

end Outline

end ProgramOutline
