import ProgramOutline.Text.Pieces

/-!
# Paths

A path is compared by its components: repeated and trailing slashes do not count, and neither do
components `.` other than the first. Its spelling is kept, as messages and document names show it.
-/

namespace ProgramOutline.Files

/-- The components of a path. -/
inductive Component where
  | root
  /-- A leading `.`. -/
  | here
  /-- `..` -/
  | up
  | name (text : String)
  deriving DecidableEq

/-- The pieces of a path between slashes. -/
def segments (path : String) : List String :=
  (Text.splitOn '/' path.toList).map String.ofList

/-- The component that a piece stands for, unless it does not count. -/
def component? (segment : String) : Option Component :=
  match segment with
  | "" => none
  | "." => none
  | ".." => some .up
  | name => some (.name name)

/-- The components of a path. -/
def components (path : String) : List Component :=
  match segments path with
  | "" :: rest => if path = "" then [] else .root :: rest.filterMap component?
  | "." :: rest => .here :: rest.filterMap component?
  | all => all.filterMap component?

/-- Do two spellings name the same path? -/
def samePath (a b : String) : Bool := components a = components b

/-- Pieces with slashes between them. -/
def joinSegments (pieces : List String) : String := String.intercalate "/" pieces

/-- The pieces without those at the end that do not count; the first one stays. -/
def trimSegments (pieces : List String) : List String :=
  match pieces with
  | [] => []
  | first :: rest => first :: (rest.reverse.dropWhile (fun s => s == "" || s == ".")).reverse

/-- The path of the directory that holds a path; empty for a name alone. -/
def parent? (path : String) : Option String :=
  match components path with
  | [] => none
  | [.root] => none
  | _ =>
    match trimSegments (trimSegments (segments path)).dropLast with
    | [""] => some "/"
    | pieces => some (joinSegments pieces)

/-- The name at the end of a path, unless it ends in `.` or `..` alone. -/
def fileName? (path : String) : Option String :=
  match (components path).getLast? with
  | some (.name text) => some text
  | _ => none

/-- The path of a name in a directory. -/
def child (directory name : String) : String :=
  if directory = "" then name
  else if directory.endsWith "/" then directory ++ name
  else directory ++ "/" ++ name

/-! ## Limits -/

/-- Can a path be followed at all? It has no null character and fewer than 4096 bytes. -/
def isPath (path : String) : Bool :=
  !path.toList.contains '\x00' && path.utf8ByteSize < 4096

/-- Can a file have this name? It has at most 255 bytes. -/
def isFileName (name : String) : Bool := name.utf8ByteSize ≤ 255

/-- The name of the document at a path. -/
def documentUri (path : String) : String := "file://" ++ path

end ProgramOutline.Files
