import ProgramOutline.Config
import ProgramOutline.Text.Case

/-!
# Sessions

A session shows the outline of one active document. Events report that a document changed, that
another document became active, or that a document was closed; after each event the outline is
extracted anew from the active document. Changes to other documents are ignored.
-/

namespace ProgramOutline

/-- A document: its name and its text. -/
structure Document where
  uri : String
  text : List Char
  deriving DecidableEq

/-- What happens to documents. -/
inductive Event where
  /-- The text of a document changed. -/
  | textChanged (document : Document)
  /-- Another document, or none, became active. -/
  | activeChanged (document : Option Document)
  /-- A document was closed. -/
  | closed (uri : String)
  deriving DecidableEq

/-- Where a host is to place the cursor, counted from zero. -/
structure CursorTarget where
  line : UInt32
  column : UInt32
  deriving DecidableEq

/-- The state of a session. -/
structure Session where
  extractor : Extractor
  announce : Bool
  active : Option Document := none
  functions : List FunctionSymbol := []
  /-- The number of extractions so far. -/
  generation : UInt64 := 0

namespace Session

/-- A new session. -/
def start (config : Config) : Session :=
  { extractor := config.extractor, announce := config.announce }

/-- Is the document with this name active, or none? -/
def concerns (active : Option Document) (uri : String) : Bool := active.all (fun d => d.uri == uri)

/-- The active document after an event. -/
def activeAfter (active : Option Document) : Event → Option Document
  | .textChanged document => if concerns active document.uri then some document else active
  | .activeChanged document => document
  | .closed uri => active.filter (fun d => d.uri != uri)

/-- Extracts the outline of the active document anew. -/
def refresh (s : Session) : Session :=
  { s with
    functions := s.extractor.runOptional (s.active.map Document.text)
    generation := s.generation + 1 }

/-- Takes notice of an event. -/
def handle (s : Session) (event : Event) : Session :=
  refresh { s with active := activeAfter s.active event }

/-- The first function with a name, in any case of ASCII letters. -/
def find? (s : Session) (name : String) : Option FunctionSymbol :=
  s.functions.find? (fun f => Text.equalIgnoringCase f.name.toList name.toList)

/-- The cursor target for a line counted from 1, if a document is active. -/
def navigate (s : Session) (line : UInt32) : Option CursorTarget :=
  if s.active.isNone || line = 0 then none else some ⟨line - 1, 0⟩

/-- The message at the start. -/
def activationText : String := "AdvPL outline activated."

/-- The message at the end. -/
def deactivationText : String := "AdvPL outline deactivated."

/-- The message at the start, if it is wanted. -/
def activationMessage (s : Session) : Option String :=
  if s.announce then some activationText else none

end Session

end ProgramOutline
