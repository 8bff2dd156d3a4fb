import ProgramOutline.Data.Basic
import ProgramOutline.Symbol.Basic

/-!
# Symbols as data

How symbols are written to documents and read from them. All fields are written, missing optional
ones as null.
-/

namespace ProgramOutline

namespace SymbolKind

/-- A kind as data. -/
def toData (kind : SymbolKind) : Data := .str kind.name

/-- Reads a kind. -/
def ofData? (form : Data.Form) : Data → Option SymbolKind :=
  Data.choice? form (all.map (fun kind => (kind.name, kind)))

end SymbolKind

namespace FunctionRule

/-- A rule as data. -/
def toData (rule : FunctionRule) : Data := .str rule.name

/-- Reads a rule. -/
def ofData? (form : Data.Form) : Data → Option FunctionRule :=
  Data.choice? form (all.map (fun rule => (rule.name, rule)))

end FunctionRule

namespace ParamType

/-- A type as data. -/
def toData (t : ParamType) : Data := .str t.name

/-- Reads a type. -/
def ofData? (d : Data) : Option ParamType := d.text?.map ofName

end ParamType

namespace Parameter

/-- A parameter as data. -/
def toData (p : Parameter) : Data :=
  .table [("name", .str p.name), ("type", (p.type.map ParamType.toData).getD .null)]

/-- Reads a parameter. -/
def ofData? (form : Data.Form) (d : Data) : Option Parameter :=
  match d.fields? form ["name", "type"] false with
  | some [name, type] => do
    return ⟨← Data.required? Data.text? name,
      ← Data.withDefault? none (Data.optional? ParamType.ofData?) type⟩
  | _ => none

end Parameter

namespace Variable

/-- A variable as data. -/
def toData (v : Variable) : Data := .table [("scope", .str v.scope), ("name", .str v.name)]

/-- Reads a variable. -/
def ofData? (form : Data.Form) (d : Data) : Option Variable :=
  match d.fields? form ["scope", "name"] false with
  | some [scope, name] => do
    return ⟨← Data.required? Data.text? scope, ← Data.required? Data.text? name⟩
  | _ => none

end Variable

namespace FunctionSymbol

/-- The names of the fields. -/
def keys : List String :=
  ["id", "kind", "name", "qualifier", "pattern", "parameters", "variables", "lineNumber",
    "declarationOffset"]

/-- A function as data. -/
def toData (f : FunctionSymbol) : Data :=
  .table [
    ("id", .str f.id),
    ("kind", f.kind.toData),
    ("name", .str f.name),
    ("qualifier", Data.ofOption f.qualifier),
    ("pattern", f.rule.toData),
    ("parameters", .list (f.parameters.map Parameter.toData)),
    ("variables", .list (f.vars.map Variable.toData)),
    ("lineNumber", .int f.line.toNat),
    ("declarationOffset", .int f.offset)]

/-- Reads a function. The line is a 32-bit and the offset a 64-bit number. -/
def ofData? (form : Data.Form) (d : Data) : Option FunctionSymbol :=
  match d.fields? form keys false with
  | some [id, kind, name, qualifier, rule, parameters, vars, line, offset] => do
    return {
      id := ← Data.required? Data.text? id
      kind := ← Data.required? (SymbolKind.ofData? form) kind
      name := ← Data.required? Data.text? name
      qualifier := ← Data.withDefault? none (Data.optional? Data.text?) qualifier
      rule := ← Data.required? (FunctionRule.ofData? form) rule
      parameters := ← Data.required? (Data.list? (Parameter.ofData? form)) parameters
      vars := ← Data.required? (Data.list? (Variable.ofData? form)) vars
      line := UInt32.ofNat (← Data.required? (Data.nat? 0x100000000) line)
      offset := ← Data.required? (Data.nat? 0x10000000000000000) offset }
  | _ => none

end FunctionSymbol

end ProgramOutline
