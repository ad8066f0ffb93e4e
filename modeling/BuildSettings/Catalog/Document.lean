/-
# Catalog documents

How a catalog is written down: the sections `versions`, `libraries`, `bundles`
and `plugins`, each of which may be left out. An entry takes the first form that
it fits; a version that is given but is none makes an entry fit no form.
-/

import BuildSettings.Catalog.Basic
import BuildSettings.Shape.Document

namespace BuildSettings

open Toml (Value)

/-- The version that a value describes: a text, or a table with a reference. -/
def VersionSpec.ofValue? : Value → Option VersionSpec
  | .string version => some (.literal version)
  | value => (Shape.textField? "ref" value).map .reference

/-- The version in a table, which may lack one. -/
def VersionSpec.ofField? (value : Value) : Option (Option VersionSpec) :=
  match value with
  | .table entries =>
    match entries.lookup "version" with
    | none => some none
    | some version => (VersionSpec.ofValue? version).map some
  | _ => none

/-- The library that a value describes. -/
def LibraryEntry.ofValue? : Value → Option LibraryEntry
  | .string text => some (.joined text)
  | value => do
    let version? ← VersionSpec.ofField? value
    match Shape.textField? "module" value with
    | some text => some (.module text version?)
    | none =>
      some (.split (← Shape.textField? "group" value) (← Shape.textField? "name" value) version?)

/-- The plugin that a value describes. -/
def PluginEntry.ofValue? : Value → Option PluginEntry
  | .string text => some (.joined text)
  | value => do
    let version? ← VersionSpec.ofField? value
    some (.detailed (← Shape.textField? "id" value) version?)

namespace Catalog

/-- Read the sections of a catalog document. -/
def ofFields (fields : Shape.Fields) : Except ShapeError Catalog :=
  Shape.Part.result
    (Catalog.mk <$> fields.optional "versions" (Shape.map Shape.text) .empty
      <*> fields.optional "libraries"
        (Shape.map (Shape.form "CatalogLibrary" LibraryEntry.ofValue?)) .empty
      <*> fields.optional "bundles" (Shape.map (Shape.list Shape.text)) .empty
      <*> fields.optional "plugins"
        (Shape.map (Shape.form "CatalogPlugin" PluginEntry.ofValue?)) .empty)

/-- Read a catalog document. -/
def ofText (text : String) : Except DocumentError Catalog :=
  readDocument ofFields text

end Catalog

/-- The failure that a user is shown when a catalog document cannot be read. -/
def catalogFailure (error : DocumentError) : Failure :=
  ⟨.catalog, error.message "catalog"⟩

end BuildSettings
