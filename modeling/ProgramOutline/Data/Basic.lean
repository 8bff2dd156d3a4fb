/-!
# Structured data

The values that JSON and TOML documents hold. Tables keep the order of their keys and hold a key at
most once.

Records are read from a table by name or from a list by position; what a table has beyond the
wanted keys is ignored. A choice is read from its name, or from a table with its name as the only
key and a value that says nothing. What says nothing depends on the notation of the document, and
so does whether a list may have more items than the record has fields.
-/

namespace ProgramOutline

/-- A value in a document. -/
inductive Data where
  | null
  | bool (value : Bool)
  | int (value : Int)
  /-- A number that is not written as an integer. -/
  | real (text : String)
  /-- A date, a time or both. -/
  | stamp (text : String)
  | str (value : String)
  | list (items : List Data)
  | table (entries : List (String × Data))
  deriving Inhabited

namespace Data

/-- The value of a key. -/
def lookup (key : String) : List (String × Data) → Option Data
  | [] => none
  | (k, v) :: rest => if k = key then some v else lookup key rest

/-- The entries with the value of a key replaced, or the key added at the end. -/
def put (key : String) (value : Data) : List (String × Data) → List (String × Data)
  | [] => [(key, value)]
  | (k, v) :: rest => if k = key then (k, value) :: rest else (k, v) :: put key value rest

/-! ## Reading records and choices -/

/-- A form of documents, as far as it matters for reading. -/
structure Form where
  /-- The values that say nothing. -/
  saysNothing : Data → Bool
  /-- May a list have items beyond the fields of a record? They are ignored. -/
  extraItems : Bool

/-- The fields of a record with the given keys, which may be missing at the end of a list if
    `short`. A date has none of the keys. -/
def fields? (form : Form) (keys : List String) (short : Bool) :
    Data → Option (List (Option Data))
  | table entries => some (keys.map (fun key => lookup key entries))
  | list items =>
    if (short || keys.length ≤ items.length) &&
        (form.extraItems || items.length ≤ keys.length) then
      some ((items.take keys.length).map some ++
        List.replicate (keys.length - items.length) none)
    else none
  | stamp _ => some (keys.map (fun _ => none))
  | _ => none

/-- Of the given alternatives the one that a value names. -/
def choice? {α : Type} (form : Form) (names : List (String × α)) : Data → Option α
  | str name => (names.find? (fun entry => entry.1 == name)).map (·.2)
  | table [(name, value)] =>
    if form.saysNothing value then (names.find? (fun entry => entry.1 == name)).map (·.2) else none
  | _ => none

/-- A text. -/
def text? : Data → Option String
  | str value => some value
  | _ => none

/-- A truth value. -/
def bool? : Data → Option Bool
  | bool value => some value
  | _ => none

/-- A natural number below a bound. -/
def nat? (bound : Nat) : Data → Option Nat
  | int value => if 0 ≤ value ∧ value < bound then some value.toNat else none
  | _ => none

/-- A list whose items all have the given form. -/
def list? {α : Type} (item? : Data → Option α) : Data → Option (List α)
  | list items => items.mapM item?
  | _ => none

/-- Null, or a value of the given form. -/
def optional? {α : Type} (form? : Data → Option α) : Data → Option (Option α)
  | null => some none
  | value => (form? value).map some

/-- A field that must be there. -/
def required? {α : Type} (form? : Data → Option α) : Option Data → Option α
  | none => none
  | some value => form? value

/-- A field with a value of its own if it is missing. -/
def withDefault? {α : Type} (default : α) (form? : Data → Option α) : Option Data → Option α
  | none => some default
  | some value => form? value

/-- Text or null. -/
def ofOption : Option String → Data
  | none => null
  | some value => str value

end Data

end ProgramOutline
