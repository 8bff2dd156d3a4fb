import ProgramOutline.Command.Run

/-!
# The program

Takes up the files that a command line names, runs the command on them, prints what it reports, and
writes the files that have changed. The `watch` command goes on looking at its document until the
program is stopped.
-/

namespace ProgramOutline.Program

/-- How the program is used. -/
def usage : String :=
  "Usage: advpl-outline [-c FILE] [-l FILE] COMMAND\n\n" ++
  "Commands:\n" ++
  "  outline FILE [--json]    print the outline of a source file\n" ++
  "  goto FILE FUNCTION       print the line where a function is declared\n" ++
  "  watch FILE [--json]      print the outline whenever the file changes\n" ++
  "  init-config [--force]    write the default configuration file\n"

/-- The paths that a command looks at. -/
def paths (invocation : Command.Invocation) : List String :=
  [invocation.config.getD configFileName] ++ invocation.log.toList.map Command.logPath ++
    invocation.action.file?.toList

/-- What stands at a path. What cannot be read counts as a directory. -/
def probe (path : String) : IO (Option Files.Node) := do
  try
    return some (.file (← IO.FS.readBinFile path).toList)
  catch
    | .noFileOrDirectory .. => return none
    | _ => return some .directory

/-- Takes up what stands at a path, given in pieces, after `above`, and on the way to it. -/
def takeUp (files : Files.Tree) (above : List String) : List String → IO Files.Tree
  | [] => return files
  | piece :: rest => do
    let here := above ++ [piece]
    let path := Files.joinSegments here
    if path = "" then takeUp files here rest
    else match ← probe path with
      | none => return files
      | some (.file bytes) => return files.mount path (.file bytes)
      | some .directory => takeUp (files.mount path .directory) here rest

/-- Writes the file at a path if it is not what it was before. -/
def writeBack (before after : Files.Tree) (path : String) : IO Unit := do
  match after.read? path with
  | none => return ()
  | some bytes =>
    if before.read? path = some bytes then return ()
    match Files.parent? path with
    | none => pure ()
    | some "" => pure ()
    | some above => IO.FS.createDirAll above
    IO.FS.writeBinFile path ⟨bytes.toArray⟩

/-- Looks at a document again and again, and prints its outline whenever that may have changed. -/
partial def keepWatching (path : String) (json : Bool) (last : Option (List Char))
    (seen : Watch.Sight) (session : Session) : IO Unit := do
  IO.sleep 200
  let sight : Watch.Sight := match ← probe path with
    | none => .absent
    | some .directory => .unreadable
    | some (.file bytes) => .content bytes
  if sight = seen then keepWatching path json last seen session
  else
    let kind : Watch.ChangeKind := if sight = .absent then .deleted else .modified
    match Watch.step path last (some ⟨some kind, [path]⟩) sight with
    | (last, none) => keepWatching path json last sight session
    | (last, some event) =>
      let session := session.handle event
      IO.print (Command.update json session)
      (← IO.getStdout).flush
      keepWatching path json last sight session

/-- Goes on watching after a `watch` command. -/
def afterwards (files : Files.Tree) : Command.Request → IO Unit
  | .run ⟨config, _, .watch file json⟩ =>
    match (Command.loadChecked files config).bind (Command.openWatch files · file) with
    | .ok (path, session) => keepWatching path json none (Watch.look files path) session
    | .error _ => return ()
  | _ => return ()

/-- Runs a command line. -/
def run (arguments : List String) : IO UInt32 := do
  let request := Command.parse arguments
  let named := match request with
    | .run invocation => paths invocation
    | _ => []
  let root := (← IO.getEnv "PWD").getD "."
  let files ← named.foldlM (fun files path => takeUp files [] (Files.segments path)) { root }
  let result := Command.run files arguments []
  named.forM (writeBack files result.files)
  if request = .help then IO.print usage
  if request = .misuse then IO.eprint usage
  IO.print result.output
  (← IO.getStdout).flush
  result.notes.forM (fun note => unless note = Session.deactivationText do IO.eprintln note)
  if result.exit = 0 then afterwards files request
  return UInt32.ofNat result.exit

end ProgramOutline.Program

/-- The program. -/
def main (arguments : List String) : IO UInt32 := ProgramOutline.Program.run arguments
