import ProgramOutline.Files.Path

/-!
# Files

The files and directories in and around a working directory. A path is followed piece by piece from
the working directory; everything on the way must be a directory. Places are lists of names; what
lies elsewhere has a place that starts with `..` or, for an absolute path, with `/`. The directories
above the working directory are always there.
-/

namespace ProgramOutline.Files

/-- What stands at a place. -/
inductive Node where
  | file (bytes : List UInt8)
  | directory
  deriving DecidableEq

/-- The contents of a working directory. -/
structure Tree where
  /-- The path of the working directory. -/
  root : String
  /-- What stands at which place; the working directory and those above it are left out. -/
  nodes : List (List String × Node) := []

namespace Tree

/-- Is the place the working directory or one above it? -/
def isAbove (place : List String) : Bool := place.all (· == "..")

/-- What stands at a place. -/
def nodeAt? (tree : Tree) (place : List String) : Option Node :=
  if isAbove place then some .directory
  else (tree.nodes.find? (fun entry => entry.1 == place)).map (·.2)

/-- Puts something at a place. -/
def put (tree : Tree) (place : List String) (node : Node) : Tree :=
  if tree.nodes.any (fun entry => entry.1 == place) then
    { tree with nodes := tree.nodes.map (fun entry =>
        if entry.1 == place then (place, node) else entry) }
  else { tree with nodes := tree.nodes ++ [(place, node)] }

/-- Removes a place and all below it. -/
def erase (tree : Tree) (place : List String) : Tree :=
  { tree with nodes := tree.nodes.filter (fun entry => !place.isPrefixOf entry.1) }

/-! ## Following paths -/

/-- The pieces of a path from the working directory on. -/
def pieces? (tree : Tree) (path : String) : Option (List String) :=
  if !isPath path then none
  else if path = tree.root then some []
  else if (tree.root.toList ++ ['/']).isPrefixOf path.toList then
    some (segments (String.ofList (path.toList.drop (tree.root.length + 1))))
  else
    match segments path with
    | "" :: rest => if path = "" then none else some ("/" :: rest)
    | pieces => some pieces

/-- The place one piece further, whether or not something stands there. -/
def further (place : List String) (piece : String) : List String :=
  match piece with
  | "" => place
  | "." => place
  | ".." => if isAbove place then place ++ [piece] else place.dropLast
  | name => place ++ [name]

/-- The place one piece further. -/
def enter? (tree : Tree) (place : List String) (piece : String) : Option (List String) :=
  if tree.nodeAt? place = some .directory && (tree.nodeAt? (further place piece)).isSome then
    some (further place piece)
  else none

/-- The place that a path leads to, if something stands there. -/
def place? (tree : Tree) (path : String) : Option (List String) := do
  (← tree.pieces? path).foldlM (tree.enter?) []

/-- Does something stand at a path? -/
def pathExists (tree : Tree) (path : String) : Bool := (tree.place? path).isSome

/-- The bytes of the file at a path. -/
def read? (tree : Tree) (path : String) : Option (List UInt8) := do
  match ← tree.nodeAt? (← tree.place? path) with
  | .file bytes => some bytes
  | .directory => none

/-- The full path of a place. -/
def placePath (tree : Tree) (place : List String) : String :=
  match place with
  | "/" :: rest => "/" ++ joinSegments rest
  | place => joinSegments (tree.root :: place)

/-- The full path of what stands at a path. -/
def fullPath? (tree : Tree) (path : String) : Option String :=
  (tree.place? path).map tree.placePath

/-! ## Changing files -/

/-- The place for a new file at a path: a name in an existing directory. -/
def newPlace? (tree : Tree) (path : String) : Option (List String) := do
  let pieces ← tree.pieces? path
  match pieces.getLast? with
  | none => none
  | some name =>
    if name = "" || name = "." || name = ".." || !isFileName name then none
    else
      let place ← pieces.dropLast.foldlM (tree.enter?) []
      if tree.nodeAt? place = some .directory then some (place ++ [name]) else none

/-- Writes a file, replacing one that is there. -/
def write? (tree : Tree) (path : String) (bytes : List UInt8) : Option Tree := do
  let place ← tree.newPlace? path
  if tree.nodeAt? place = some .directory then none else some (tree.put place (.file bytes))

/-- Makes the directories along pieces of a path: the tree with those that could be made, and
    whether all are there. -/
def makeAlong : List String → Tree → List String → Tree × Bool
  | [], tree, place => (tree, tree.nodeAt? place = some .directory)
  | piece :: rest, tree, place =>
    match tree.enter? place piece with
    | some place => makeAlong rest tree place
    | none =>
      if tree.nodeAt? place ≠ some .directory || piece = ".." || !isFileName piece then
        (tree, false)
      else makeAlong rest (tree.put (place ++ [piece]) .directory) (place ++ [piece])

/-- Makes a directory and those above it, as far as possible. -/
def makeDirectories (tree : Tree) (path : String) : Tree × Bool :=
  match tree.pieces? path with
  | some pieces => makeAlong pieces tree []
  | none => (tree, false)

/-- Makes the directory that is to hold a path, as far as possible: its own path if that fails. -/
def makeParent (tree : Tree) (path : String) : Tree × Except String Unit :=
  match parent? path with
  | none => (tree, .ok ())
  | some "" => (tree, .ok ())
  | some above =>
    match tree.makeDirectories above with
    | (tree, true) => (tree, .ok ())
    | (tree, false) => (tree, .error above)

/-- Writes a file and makes the directories above it. -/
def install? (tree : Tree) (path : String) (bytes : List UInt8) : Option Tree :=
  match tree.makeParent path with
  | (tree, .ok _) => tree.write? path bytes
  | (_, .error _) => none

/-- Puts something at a path and directories at all places on the way. -/
def mount (tree : Tree) (path : String) (node : Node) : Tree :=
  match tree.pieces? path with
  | none => tree
  | some pieces =>
    let place := pieces.foldl further []
    let above := (List.range place.length).tail.map (fun n => place.take n)
    (above.foldl (fun tree p => tree.put p .directory) tree).put place node

/-- Removes what stands at a path. -/
def remove? (tree : Tree) (path : String) : Option Tree := do
  return tree.erase (← tree.place? path)

end Tree

end ProgramOutline.Files
