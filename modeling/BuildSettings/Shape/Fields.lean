/-
# Fields of a section

A section of a document is a table with named fields, or a list that gives the
fields in their order. Fields that nobody asks for do not matter. When several
fields are wrong, the one that comes first in the document is reported; fields
that are missing come after all that are there, in the order of the section.
-/

import BuildSettings.Shape.Error

namespace BuildSettings.Shape

open Toml (Value)

/-- The result of reading part of a section: a value, or an error with the place
in the document at which it counts. -/
inductive Part (α : Type)
  | read (value : α)
  | fault (place : Nat) (error : ShapeError)

namespace Part

/-- Put two parts together; of two faults the earlier counts, and of two at the
same place the left one. -/
def both {α β : Type} (f : Part (α → β)) (x : Part α) : Part β :=
  match f, x with
  | .read f, .read x => .read (f x)
  | .read _, .fault place error => .fault place error
  | .fault place error, .read _ => .fault place error
  | .fault place error, .fault later other =>
    if later < place then .fault later other else .fault place error

instance : Applicative Part where
  pure := .read
  seq f x := both f (x ())

/-- A part that is the whole. -/
def result {α : Type} : Part α → Except ShapeError α
  | .read value => .ok value
  | .fault _ error => .error error

end Part

/-- The fields that a section gives, in the order of the document, and the error
for one that is missing. -/
structure Fields where
  entries : List (String × Value)
  missing : String → ShapeError

/-- The key under which the text of a date or time is found when it is taken for
a table. -/
def dateTimeKey : String := "$__toml_private_datetime"

/-- The entries of a value that can be taken for a table. -/
def entries? : Value → Option (List (String × Value))
  | .table entries => some entries
  | .dateTime text => some [(dateTimeKey, .string text)]
  | _ => none

namespace Fields

/-- The fields of a table. -/
def ofEntries (entries : List (String × Value)) : Fields :=
  ⟨entries, .missing⟩

/-- The fields of a list, which gives them in the order of `keys`. -/
def ofList (name : String) (keys : List String) (items : List Value) : Fields :=
  ⟨keys.zip items, fun _ => .tooShort items.length name keys.length⟩

/-- The fields of a section with the given name and keys. -/
def ofValue (name : String) (keys : List String) (value : Value) : Except ShapeError Fields :=
  match value.items?, entries? value with
  | some items, _ => .ok (ofList name keys items)
  | none, some entries => .ok (ofEntries entries)
  | none, none => .error (.wrongType value.description (.fields name))

/-- Read the value of a field; `absent` stands for one that is not given. -/
def part {α : Type} (fields : Fields) (key : String) (reader : Value → Except ShapeError α)
    (absent : Part α) : Part α :=
  match fields.entries.lookup key with
  | none => absent
  | some value =>
    match reader value with
    | .ok value => .read value
    | .error error => .fault (fields.entries.findIdx (·.1 == key)) error

/-- Read a field that must be given. -/
def required {α : Type} (fields : Fields) (key : String)
    (reader : Value → Except ShapeError α) : Part α :=
  fields.part key reader (.fault fields.entries.length (fields.missing key))

/-- Read a field that need not be given. -/
def optional {α : Type} (fields : Fields) (key : String) (reader : Value → Except ShapeError α)
    (default : α) : Part α :=
  fields.part key reader (.read default)

end Fields

/-- Read a text. -/
def text : Value → Except ShapeError String
  | .string text => .ok text
  | value => .error (.wrongType value.description .text)

/-- Read a path. -/
def path : Value → Except ShapeError Path
  | .string text => .ok ⟨text⟩
  | value => .error (.wrongType value.description .path)

/-- Read a list of items. -/
def list {α : Type} (item : Value → Except ShapeError α) (value : Value) :
    Except ShapeError (List α) :=
  match value.items? with
  | some items => items.mapM item
  | none => .error (.wrongType value.description .list)

/-- Read a map from names. -/
def map {α : Type} (item : Value → Except ShapeError α) (value : Value) :
    Except ShapeError (NameMap α) :=
  match entries? value with
  | none => .error (.wrongType value.description .map)
  | some entries => do
    let items ← entries.mapM fun entry => do
      let read ← item entry.2
      pure (entry.1, read)
    pure (.ofList items)

/-- Read an entry that has several forms, none of which says what is wrong. -/
def form {α : Type} (name : String) (read? : Value → Option α) (value : Value) :
    Except ShapeError α :=
  match read? value with
  | some read => .ok read
  | none => .error (.noForm name)

/-- The text under a key of a table. -/
def textField? (key : String) (value : Value) : Option String :=
  match value with
  | .table entries =>
    match entries.lookup key with
    | some (.string text) => some text
    | _ => none
  | _ => none

end BuildSettings.Shape
