import ProgramOutline.Config
import ProgramOutline.Files.Tree
import ProgramOutline.Session
import ProgramOutline.Text.Decode

/-!
# Configurations and documents in files

A configuration file that is missing counts as the default configuration. A failure says what could
not be done to which path.
-/

namespace ProgramOutline

/-- Why a command or an operation on files failed. -/
inductive Failure where
  | readConfig (path : String)
  | parseConfig (path : String)
  | create (path : String)
  | writeConfig (path : String)
  | readDocument (path : String)
  | watch (path : String)
  | brokenRule (error : RuleError)
  | alreadyThere (path : String)
  | noSuchFunction (name path : String)
  deriving DecidableEq

namespace Failure

/-- The text that goes with a broken rule. -/
def brokenRuleText : String := "Invalid [regex] configuration"

/-- The text of a failure. -/
def message : Failure → String
  | readConfig path => "Failed to read config file " ++ path
  | parseConfig path => "Failed to parse config file " ++ path
  | create path => "Failed to create " ++ path
  | writeConfig path => "Failed to write config file " ++ path
  | readDocument path => "Failed to read " ++ path
  | watch path => "Cannot watch " ++ path
  | brokenRule _ => brokenRuleText
  | alreadyThere path => path ++ " already exists (use --force to overwrite)"
  | noSuchFunction name path => "Function '" ++ name ++ "' not found in " ++ path

end Failure

/-- The name of the configuration file that is used unless another one is given. -/
def configFileName : String := "advpl-outline.toml"

namespace Files.Tree

/-- The path of the default configuration file. -/
def defaultConfigPath (tree : Tree) : String := tree.root ++ "/" ++ configFileName

/-- Loads a configuration from a path, or from the default one. -/
def loadConfig (tree : Tree) (path : Option String) : Except Failure Config :=
  let path := path.getD tree.defaultConfigPath
  if !tree.pathExists path then .ok {}
  else
    match (tree.read? path).bind Text.decodeStrict? with
    | none => .error (.readConfig path)
    | some text =>
      match Config.ofToml? text with
      | none => .error (.parseConfig path)
      | some config => .ok config

/-- Saves a configuration, making the directory for it if need be. A directory that has been made
    stays even if the file cannot be written. -/
def saveConfig (tree : Tree) (path : String) (config : Config) : Tree × Except Failure Unit :=
  match tree.makeParent path with
  | (tree, .error above) => (tree, .error (.create above))
  | (tree, .ok _) =>
    match tree.write? path (String.ofList config.toToml).toUTF8.toList with
    | some tree => (tree, .ok ())
    | none => (tree, .error (.writeConfig path))

/-- Reads the document at a path. -/
def readDocument (tree : Tree) (path : String) : Except Failure Document :=
  match tree.read? path with
  | some bytes => .ok ⟨documentUri path, Text.decodeSource bytes⟩
  | none => .error (.readDocument path)

end Files.Tree

end ProgramOutline
