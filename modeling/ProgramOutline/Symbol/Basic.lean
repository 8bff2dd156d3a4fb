import ProgramOutline.Digest.Md5

/-!
# Symbols

What an outline is made of: functions with their parameters and the variables declared in their
bodies. A parameter type is one of eight conventional types or the name given in the source; the
text of a type determines it (`ParamType.ofName_name`).
-/

namespace ProgramOutline

/-- The kinds of entries of an outline. -/
inductive SymbolKind where
  | function
  | parameter
  | var
  deriving DecidableEq

namespace SymbolKind

/-- The name of a kind. -/
def name : SymbolKind → String
  | function => "function"
  | parameter => "parameter"
  | var => "variable"

/-- The icon shown for a kind. -/
def icon : SymbolKind → String
  | function => "symbol-function"
  | parameter => "symbol-parameter"
  | var => "symbol-variable"

/-- All kinds. -/
def all : List SymbolKind := [function, parameter, var]

end SymbolKind

/-- The rules that find functions. -/
inductive FunctionRule where
  | generic
  | static
  | user
  deriving DecidableEq

namespace FunctionRule

/-- The rules in the order in which they are applied. -/
def all : List FunctionRule := [generic, static, user]

/-- The name of a rule. -/
def name : FunctionRule → String
  | generic => "generic"
  | static => "static"
  | user => "user"

/-- The configuration key of a rule. -/
def key : FunctionRule → String
  | generic => "functions"
  | static => "staticfunctions"
  | user => "userfunctions"

/-- The place of a rule in the order of application. -/
def rank : FunctionRule → Nat
  | generic => 0
  | static => 1
  | user => 2

end FunctionRule

/-- The type of a parameter. -/
inductive ParamType where
  | character
  | numeric
  | logical
  | array
  | date
  | object
  | json
  | undefined
  /-- A type named in the source. -/
  | named (name : String)
  deriving DecidableEq

namespace ParamType

/-- The text of a type. -/
def name : ParamType → String
  | character => "character"
  | numeric => "numeric"
  | logical => "logical"
  | array => "array"
  | date => "date"
  | object => "object"
  | json => "json"
  | undefined => "undefined"
  | named name => name

/-- The type with the given text. -/
def ofName : String → ParamType
  | "character" => character
  | "numeric" => numeric
  | "logical" => logical
  | "array" => array
  | "date" => date
  | "object" => object
  | "json" => json
  | "undefined" => undefined
  | name => named name

/-- The type that a name with this first letter has by convention. -/
def ofInitial? : Char → Option ParamType
  | 'c' => some character
  | 'n' => some numeric
  | 'l' => some logical
  | 'a' => some array
  | 'd' => some date
  | 'o' => some object
  | 'j' => some json
  | _ => none

/-- Is the type one of the eight conventional ones, or named otherwise? -/
def Proper (t : ParamType) : Prop := ofName t.name = t

end ParamType

/-- A parameter of a function. -/
structure Parameter where
  name : String
  type : Option ParamType
  deriving DecidableEq

/-- The text shown for a parameter. -/
def Parameter.label (p : Parameter) : String :=
  match p.type with
  | some t => p.name ++ " : " ++ t.name
  | none => p.name

/-- A variable declared in the body of a function. -/
structure Variable where
  scope : String
  name : String
  deriving DecidableEq

/-- The text shown for a variable. -/
def Variable.label (v : Variable) : String := v.scope ++ " : " ++ v.name

/-- A function found in a source text. -/
structure FunctionSymbol where
  id : String
  kind : SymbolKind
  name : String
  qualifier : Option String
  rule : FunctionRule
  parameters : List Parameter
  vars : List Variable
  line : UInt32
  offset : Nat
  deriving DecidableEq

/-- The text whose digest is the identity of a function. -/
def identityText (rule : FunctionRule) (name : String) (offset : Nat) : String :=
  rule.key ++ ":" ++ name ++ ":" ++ String.ofList (Text.decimal offset)

/-- The identity of a function: it depends on the rule, the name and the place only. -/
def identity (rule : FunctionRule) (name : String) (offset : Nat) : String :=
  Digest.md5Hex (identityText rule name offset)

end ProgramOutline
