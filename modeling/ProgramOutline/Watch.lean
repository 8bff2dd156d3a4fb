import ProgramOutline.Files.Config

/-!
# Watching a document

A watcher is told of changes in the directory of a document. Of these it keeps the ones that touch
the document, looks at the file, and passes an event on to a session. A text equal to the one
passed on last is not passed on again; a document that is gone counts as closed.
-/

namespace ProgramOutline.Watch

/-- The kinds of notices that matter. -/
inductive ChangeKind where
  | created
  | modified
  | deleted
  deriving DecidableEq

/-- A notice from the file system: a kind, unless it does not matter, and the paths it concerns. -/
structure Notice where
  kind : Option ChangeKind
  paths : List String

/-- A change to the document, with the spelling of its path in the notice. -/
structure Change where
  path : String
  kind : ChangeKind
  deriving DecidableEq

/-- The change that a notice means for a document. -/
def classify (notice : Notice) (target : String) : Option Change :=
  match notice.kind with
  | none => none
  | some kind => (notice.paths.find? (fun path => Files.samePath path target)).map (⟨·, kind⟩)

/-- What is found when the file is looked at. -/
inductive Sight where
  | absent
  | unreadable
  | content (bytes : List UInt8)
  deriving DecidableEq

/-- What is found at a path. -/
def look (tree : Files.Tree) (path : String) : Sight :=
  if !tree.pathExists path then .absent
  else match tree.read? path with
    | some bytes => .content bytes
    | none => .unreadable

/-- The event that a change leads to. A deletion counts only if the file is gone when it is looked
    at; otherwise the file must be readable. -/
def event? (change : Change) (sight : Sight) : Option Event :=
  let uri := Files.documentUri change.path
  match change.kind, sight with
  | .deleted, .absent => some (.closed uri)
  | _, .content bytes => some (.textChanged ⟨uri, Text.decodeSource bytes⟩)
  | _, _ => none

/-- Passes an event on unless it repeats the last text: what to remember, and what is passed on. -/
def forward (last : Option (List Char)) (event : Event) : Option (List Char) × Option Event :=
  match event with
  | .textChanged document =>
    if last = some document.text then (last, none) else (some document.text, some event)
  | event => (none, some event)

/-- One step of a watcher. A missing notice is an error of the file system. -/
def step (target : String) (last : Option (List Char)) (notice : Option Notice) (sight : Sight) :
    Option (List Char) × Option Event :=
  match (notice.bind (fun n => classify n target)).bind (fun change => event? change sight) with
  | none => (last, none)
  | some event => forward last event

/-- The events that a watcher passes on, given what it is told and sees. -/
def events (target : String) (last : Option (List Char)) :
    List (Option Notice × Sight) → List Event
  | [] => []
  | (notice, sight) :: rest =>
    let (last, passed) := step target last notice sight
    passed.toList ++ events target last rest

/-! ## Edits -/

/-- What may be done to a watched document and the files beside it. -/
inductive Edit where
  /-- The document is replaced. -/
  | write (bytes : List UInt8)
  /-- The document is deleted. -/
  | delete
  /-- The document is moved elsewhere. -/
  | moveAway
  /-- The document is moved back. -/
  | moveBack
  /-- Another file is written. -/
  | writeOther (path : String)

/-- The document on disk, and where it has been moved to. -/
structure Shelf where
  present : Option (List UInt8)
  aside : Option (List UInt8) := none

/-- What is found where the document belongs. -/
def Shelf.sight (shelf : Shelf) : Sight :=
  match shelf.present with
  | some bytes => .content bytes
  | none => .absent

/-- An edit: the files after it, and the notice of it. -/
def Edit.apply (target : String) (shelf : Shelf) : Edit → Shelf × Notice
  | write bytes => ({ shelf with present := some bytes }, ⟨some .modified, [target]⟩)
  | delete => ({ shelf with present := none }, ⟨some .deleted, [target]⟩)
  | moveAway => (⟨none, shelf.present⟩, ⟨some .modified, [target]⟩)
  | moveBack => (⟨shelf.aside, none⟩, ⟨some .modified, [target]⟩)
  | writeOther path => (shelf, ⟨some .modified, [path]⟩)

/-- What a watcher is told and sees in the course of edits. -/
def observe (target : String) (shelf : Shelf) : List Edit → List (Option Notice × Sight)
  | [] => []
  | edit :: rest =>
    let (shelf, notice) := edit.apply target shelf
    (some notice, shelf.sight) :: observe target shelf rest

/-- The events in the course of edits. -/
def eventsOf (target : String) (content : List UInt8) (edits : List Edit) : List Event :=
  events target none (observe target ⟨some content, none⟩ edits)

/-- The states of a session after each of several events, with the events. -/
def follow (session : Session) : List Event → List (Event × Session)
  | [] => []
  | event :: rest =>
    let session := session.handle event
    (event, session) :: follow session rest

end ProgramOutline.Watch
