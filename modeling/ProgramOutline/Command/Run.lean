import ProgramOutline.Command.Arguments
import ProgramOutline.Outline
import ProgramOutline.Text.Quoted
import ProgramOutline.Watch

/-!
# Running commands

A command is a function from its arguments and the files to what it prints, its exit code and the
files afterwards. The `watch` command also depends on the edits to the file until it is stopped.
-/

namespace ProgramOutline.Command

/-- The result of a command that did its work. -/
structure Report where
  output : String := ""
  /-- Lines for the error stream. -/
  notes : List String := []
  files : Files.Tree

/-- The result of a command that failed: lines for the error stream, and the failure. -/
structure Breakdown where
  notes : List String := []
  failure : Failure
  /-- The files as they are left, if the command has changed them before it failed. -/
  files : Option Files.Tree := none

/-- Everything that can be seen of a command. -/
structure Result where
  exit : Nat
  output : String
  notes : List String
  files : Files.Tree

/-- The text that names the program and its version. -/
def versionText : String := "advpl-outline 0.1.0\n"

/-- A failure without notes. -/
def orBreak {α : Type} (result : Except Failure α) : Except Breakdown α :=
  result.mapError (fun failure => { failure })

/-- Loads a configuration whose rules all work. -/
def loadChecked (files : Files.Tree) (path : Option String) : Except Failure Config := do
  let config ← files.loadConfig path
  match config.validate with
  | .ok _ => .ok config
  | .error e => .error (.brokenRule e)

/-- Opens a session on a document. -/
def openSession (config : Config) (files : Files.Tree) (path : String) :
    Except Failure Session := do
  let document ← files.readDocument path
  return (Session.start config).handle (.activeChanged (some document))

/-- Prints an outline. -/
def outline (files : Files.Tree) (config : Config) (file : String) (json : Bool) :
    Except Breakdown Report := do
  let session ← orBreak (openSession config files file)
  return {
    output := Outline.render json session.functions
    notes := session.activationMessage.toList
    files }

/-- Prints the line of a function. -/
def goto (files : Files.Tree) (config : Config) (file function : String) :
    Except Breakdown Report := do
  let session ← orBreak (openSession config files file)
  let notes := session.activationMessage.toList
  match session.find? function with
  | some symbol =>
    return { output := String.ofList (Text.decimal symbol.line.toNat) ++ "\n", notes, files }
  | none => throw { notes, failure := .noSuchFunction function file }

/-- Opens a session on a document that is to be watched; its path is the full one. -/
def openWatch (files : Files.Tree) (config : Config) (file : String) :
    Except Failure (String × Session) := do
  match files.fullPath? file with
  | some path => return (path, ← openSession config files path)
  | none => throw (.watch file)

/-- What is printed when a watched document has changed. -/
def update (json : Bool) (session : Session) : String :=
  "---\n" ++ Outline.render json session.functions

/-- Prints an outline, and again after each event. -/
def watch (files : Files.Tree) (config : Config) (file : String) (json : Bool)
    (edits : List Watch.Edit) : Except Breakdown Report := do
  let (path, session) ← orBreak (openWatch files config file)
  let events := Watch.eventsOf path ((files.read? path).getD []) edits
  let later := (Watch.follow session events).map (fun (_, session) => update json session)
  return {
    output := Outline.render json session.functions ++ String.join later
    notes := session.activationMessage.toList ++ [Session.deactivationText]
    files }

/-- Writes the default configuration. If that fails, the directories made for it stay. -/
def initConfig (files : Files.Tree) (path : Option String) (force : Bool) :
    Except Breakdown Report := do
  let path := path.getD configFileName
  if files.pathExists path && !force then throw { failure := .alreadyThere path }
  else
    match files.saveConfig path {} with
    | (files, .ok _) => return { output := "Wrote " ++ path ++ "\n", files }
    | (left, .error failure) => throw { failure, files := some left }

/-- Performs an action. -/
def perform (files : Files.Tree) (config : Option String) (edits : List Watch.Edit) :
    Action → Except Breakdown Report
  | .initConfig force => initConfig files config force
  | .outline file json => do outline files (← orBreak (loadChecked files config)) file json
  | .goto file function => do goto files (← orBreak (loadChecked files config)) file function
  | .watch file json => do watch files (← orBreak (loadChecked files config)) file json edits

/-- The name of a log file that is given as a directory only. -/
def logFileName : String := "advpl-outline.log"

/-- The path of the log file that is opened for a given path. -/
def logPath (path : String) : String :=
  Files.child ((Files.parent? path).getD ".") ((Files.fileName? path).getD logFileName)

/-- The files once the log file is open. -/
def openLog (files : Files.Tree) (log : Option String) : Files.Tree :=
  match log.map logPath with
  | none => files
  | some path => if files.pathExists path then files else (files.install? path []).getD files

/-- The first line of a text, without a carriage return at its end. -/
def firstLine (text : String) : String :=
  let line := text.toList.takeWhile (· ≠ '\n')
  String.ofList (if line.getLast? = some '\r' then line.dropLast else line)

/-- Runs a command line, with the edits made while it watches a file. -/
def run (files : Files.Tree) (arguments : List String) (edits : List Watch.Edit) : Result :=
  match parse arguments with
  | .misuse => ⟨2, "", [], files⟩
  | .help => ⟨0, "", [], files⟩
  | .version => ⟨0, versionText, [], files⟩
  | .run invocation =>
    let logNotes := invocation.log.toList.map (fun path =>
      "Debug logging enabled: " ++ Text.quoted path)
    let opened := openLog files invocation.log
    match perform opened invocation.config edits invocation.action with
    | .ok report => ⟨0, report.output, logNotes ++ report.notes, report.files⟩
    | .error breakdown =>
      ⟨1, "", logNotes ++ breakdown.notes ++ [firstLine ("Error: " ++ breakdown.failure.message)],
        breakdown.files.getD opened⟩

end ProgramOutline.Command
