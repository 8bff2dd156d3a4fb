import ProgramOutline.Data.Basic

/-!
# Building TOML tables

A table comes about in one of three ways: by a header of its own, by the header of a table below
it, or by a dotted key. What may be added to it later depends on which: a header may follow only if
the table came about by a header below it, and a dotted key may add only to tables that came about
by dotted keys. No key is given a value twice.
-/

namespace ProgramOutline.Toml

/-- How a table came about. -/
inductive Origin where
  | header
  | subHeader
  | dotted
  deriving DecidableEq

/-- What a key stands for while a document is being read. -/
inductive Item where
  | value (data : Data)
  | table (origin : Origin) (entries : List (String × Item))
  /-- The tables of an array, latest first. -/
  | tables (elements : List (List (String × Item)))

/-- The entries of a table. -/
abbrev Entries := List (String × Item)

/-- The item of a key. -/
def Entries.get? (key : String) : Entries → Option Item
  | [] => none
  | (k, item) :: rest => if k = key then some item else Entries.get? key rest

/-- The entries with the item of a key replaced, or the key added at the end. -/
def Entries.put (key : String) (item : Item) : Entries → Entries
  | [] => [(key, item)]
  | (k, old) :: rest => if k = key then (k, item) :: rest else (k, old) :: Entries.put key item rest

/-- Changes the table at the end of a path, creating the tables on the way. With `dotted` the path
    is a dotted key, which must not pass through a table with a header. -/
def alterAt (dotted : Bool) (change : Origin → Entries → Option Entries) :
    List String → Origin → Entries → Option Entries
  | [], origin, entries => change origin entries
  | key :: path, _, entries =>
    match Entries.get? key entries with
    | none => do
      let origin := if dotted then Origin.dotted else Origin.subHeader
      return Entries.put key (.table origin (← alterAt dotted change path origin [])) entries
    | some (.table origin inner) =>
      if dotted && origin = .header then none
      else do
        return Entries.put key (.table origin (← alterAt dotted change path origin inner)) entries
    | some (.tables (last :: others)) => do
      let last ← alterAt dotted change path .header last
      return Entries.put key (.tables (last :: others)) entries
    | some (.tables []) => none
    | some (.value _) => none

/-- Gives a key a value, if it stands for nothing yet. -/
def addNew (key : String) (item : Item) (entries : Entries) : Option Entries :=
  match Entries.get? key entries with
  | none => some (Entries.put key item entries)
  | some _ => none

/-- Adds a value under a dotted key. A key with more than one part ends in a dotted table. -/
def addValue (path : List String) (key : String) (value : Data) (entries : Entries) :
    Option Entries :=
  alterAt true (fun origin inner =>
    if path.isEmpty || origin = .dotted then addNew key (.value value) inner else none)
    path .header entries

/-- Opens a table by its header. -/
def openTable (path : List String) (key : String) (root : Entries) : Option Entries :=
  alterAt false (fun _ inner =>
    match Entries.get? key inner with
    | none => some (Entries.put key (.table .header []) inner)
    | some (.table .subHeader entries) => some (Entries.put key (.table .header entries) inner)
    | some _ => none)
    path .header root

/-- Opens the next table of an array by its header. -/
def openElement (path : List String) (key : String) (root : Entries) : Option Entries :=
  alterAt false (fun _ inner =>
    match Entries.get? key inner with
    | none => some (Entries.put key (.tables [[]]) inner)
    | some (.tables elements) => some (Entries.put key (.tables ([] :: elements)) inner)
    | some _ => none)
    path .header root

/-- Adds a value to the table that was opened last. -/
def addToOpen (opened : List String) (path : List String) (key : String) (value : Data)
    (root : Entries) : Option Entries :=
  alterAt false (fun _ inner => addValue path key value inner) opened .header root

mutual

/-- The value of an item. -/
def Item.toData : Item → Data
  | .value data => data
  | .table _ entries => .table (entriesData entries)
  | .tables elements => .list (elementsData elements)

/-- The values of the entries of a table. -/
def entriesData : List (String × Item) → List (String × Data)
  | [] => []
  | (key, item) :: rest => (key, item.toData) :: entriesData rest

/-- The tables of an array, in order. -/
def elementsData : List (List (String × Item)) → List Data
  | [] => []
  | entries :: rest => elementsData rest ++ [.table (entriesData entries)]

end

end ProgramOutline.Toml
