import ProgramOutline.Extract
import ProgramOutline.Symbol.Data
import ProgramOutline.Toml.Reader

/-!
# Configuration

A configuration says whether activation is announced, which rules find the symbols, and how
parameters are typed. It is read from data or a TOML document, where what is missing takes its
default, and written as TOML, where rules that are absent are left out.
-/

namespace ProgramOutline

namespace TypeFallback

/-- The names of the fallbacks. -/
def names : List (String × TypeFallback) := [("undefined", .undefined), ("omit", .untyped)]

/-- The name of a fallback. -/
def name : TypeFallback → String
  | undefined => "undefined"
  | untyped => "omit"

end TypeFallback

namespace SeparatorCase

/-- The names of the cases. -/
def names : List (String × SeparatorCase) :=
  [("sensitive", .sensitive), ("insensitive", .insensitive)]

/-- The name of a case. -/
def name : SeparatorCase → String
  | sensitive => "sensitive"
  | insensitive => "insensitive"

end SeparatorCase

namespace TypingOptions

/-- Options as data. -/
def toData (o : TypingOptions) : Data :=
  .table [("fallback", .str o.fallback.name), ("as_separator", .str o.separator.name)]

/-- Reads options. -/
def ofData? (form : Data.Form) (d : Data) : Option TypingOptions :=
  match d.fields? form ["fallback", "as_separator"] true with
  | some [fallback, separator] => do
    return ⟨← Data.withDefault? .undefined (Data.choice? form TypeFallback.names) fallback,
      ← Data.withDefault? .sensitive (Data.choice? form SeparatorCase.names) separator⟩
  | _ => none

end TypingOptions

namespace RuleTexts

/-- The rules with their keys, in order. -/
def entries (texts : RuleTexts) : List (String × Option String) :=
  RuleSlot.all.map (fun slot => (slot.key, texts.get slot))

/-- Rule texts as data. -/
def toData (texts : RuleTexts) : Data :=
  .table (texts.entries.map (fun (key, text) => (key, Data.ofOption text)))

/-- Reads rule texts. -/
def ofData? (form : Data.Form) (d : Data) : Option RuleTexts :=
  match d.fields? form (RuleSlot.all.map RuleSlot.key) true with
  | some [generic, static, user, vars] =>
    let text := Data.optional? Data.text?
    do return ⟨← Data.withDefault? (some defaultFunctionRule) text generic,
      ← Data.withDefault? none text static, ← Data.withDefault? none text user,
      ← Data.withDefault? (some defaultVariableRule) text vars⟩
  | _ => none

end RuleTexts

/-- A configuration. -/
structure Config where
  announce : Bool := false
  rules : RuleTexts := {}
  typing : TypingOptions := {}
  deriving DecidableEq

namespace Config

/-- The names of the three parts. -/
def keys : List String := ["show_activation_message", "regex", "parameters"]

/-- A configuration as data. -/
def toData (c : Config) : Data :=
  .table [("show_activation_message", .bool c.announce), ("regex", c.rules.toData),
    ("parameters", c.typing.toData)]

/-- Reads a configuration. -/
def ofData? (form : Data.Form) (d : Data) : Option Config :=
  match d.fields? form keys true with
  | some [announce, rules, typing] => do
    return ⟨← Data.withDefault? false Data.bool? announce,
      ← Data.withDefault? {} (RuleTexts.ofData? form) rules,
      ← Data.withDefault? {} (TypingOptions.ofData? form) typing⟩
  | _ => none

/-- Reads a configuration from a TOML document. -/
def ofToml? (text : List Char) : Option Config := (Toml.parse? text).bind (ofData? Toml.form)

/-! ## Writing -/

/-- A line that gives a key a quoted value. -/
def tomlLine (key value : String) : List Char :=
  key.toList ++ " = ".toList ++ Toml.encode value.toList ++ ['\n']

/-- A configuration as a TOML document. -/
def toToml (c : Config) : List Char :=
  "show_activation_message = ".toList ++ (if c.announce then "true" else "false").toList ++
    "\n\n[regex]\n".toList ++
    c.rules.entries.flatMap (fun (key, text) => (text.map (tomlLine key)).getD []) ++
    "\n[parameters]\n".toList ++ tomlLine "fallback" c.typing.fallback.name ++
    tomlLine "as_separator" c.typing.separator.name

/-! ## Use -/

/-- The error of the first broken rule. -/
def validate (c : Config) : Except RuleError Unit := (Rules.compileAll c.rules).map (fun _ => ())

/-- The extractor of a configuration; broken rules are left out. -/
def extractor (c : Config) : Extractor := ⟨Rules.compile c.rules, c.typing⟩

end Config

end ProgramOutline
