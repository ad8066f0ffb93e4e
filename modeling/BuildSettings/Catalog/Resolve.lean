/-
# Resolving catalogs

Resolving a catalog brings every library and plugin into one form and replaces
references by the versions they name, in one step. It fails at the first entry
that cannot be brought into form or refers to nothing: libraries come first, in
the order of their keys, then the members of the bundles, then the plugins.
-/

import BuildSettings.Catalog.Basic
import BuildSettings.Failure

namespace BuildSettings

/-- A library in its one form. -/
structure Library where
  key : String
  group : String
  artifact : String
  /-- None when the version is left to a platform or constraint. -/
  version? : Option String
  deriving Repr, DecidableEq

/-- A plugin in its one form. -/
structure Plugin where
  key : String
  id : String
  version? : Option String
  deriving Repr, DecidableEq

/-- A catalog with every reference resolved; libraries and plugins stand in the
order of their keys. -/
structure ResolvedCatalog where
  libraries : List Library
  bundles : NameMap (List String)
  plugins : List Plugin

/-- Why a catalog cannot be resolved. -/
inductive CatalogError
  /-- The text of a library has neither two nor three parts. -/
  | malformedLibrary (key text : String)
  /-- The group and artifact of a library are not two parts. -/
  | malformedModule (key text : String)
  /-- An entry refers to a version that there is not. -/
  | unknownVersion (key reference : String)
  /-- A bundle has a member that is no library. -/
  | unknownLibrary (bundle member : String)
  deriving Repr, DecidableEq

/-- The wording of an error. -/
def CatalogError.message : CatalogError → String
  | .malformedLibrary key text =>
    "'" ++ key ++ "' has notation '" ++ text ++ "', expected 'group:artifact[:version]'"
  | .malformedModule key text =>
    "'" ++ key ++ "' has module '" ++ text ++ "', expected 'group:artifact'"
  | .unknownVersion key reference =>
    "'" ++ key ++ "' references unknown version '" ++ reference ++ "'"
  | .unknownLibrary bundle member =>
    "bundle '" ++ bundle ++ "' references unknown library '" ++ member ++ "'"

/-- The failure that a user is shown. -/
def CatalogError.toFailure (error : CatalogError) : Failure :=
  ⟨.catalog, error.message⟩

/-- A library as coordinates: group, artifact and perhaps version with colons
between them. -/
def Library.coordinates (library : Library) : String :=
  match library.version? with
  | some version => library.group ++ ":" ++ library.artifact ++ ":" ++ version
  | none => library.group ++ ":" ++ library.artifact

/-- A plugin as coordinates: identifier and perhaps version with a colon between them. -/
def Plugin.coordinates (plugin : Plugin) : String :=
  match plugin.version? with
  | some version => plugin.id ++ ":" ++ version
  | none => plugin.id

/-- The parts of a text between its colons. -/
def colonParts (text : String) : List String :=
  (text.toList.splitOn ':').map String.ofList

/-- The version of an entry, looked up if it is a reference. -/
def VersionSpec.resolve (versions : NameMap String) (key : String) :
    Option VersionSpec → Except CatalogError (Option String)
  | none => .ok none
  | some (.literal version) => .ok (some version)
  | some (.reference name) =>
    match versions.get? name with
    | some version => .ok (some version)
    | none => .error (.unknownVersion key name)

/-- The library that coordinates spell. -/
def Library.ofCoordinates (key text : String) : Except CatalogError Library :=
  match colonParts text with
  | [group, artifact] => .ok ⟨key, group, artifact, none⟩
  | [group, artifact, version] => .ok ⟨key, group, artifact, some version⟩
  | _ => .error (.malformedLibrary key text)

/-- The plugin that coordinates spell; the first colon ends the identifier. -/
def Plugin.ofCoordinates (key text : String) : Plugin :=
  match text.toList.dropWhile (· != ':') with
  | [] => ⟨key, text, none⟩
  | _ :: version =>
    ⟨key, String.ofList (text.toList.takeWhile (· != ':')), some (String.ofList version)⟩

/-- Bring a library into form. -/
def LibraryEntry.resolve (versions : NameMap String) (key : String) :
    LibraryEntry → Except CatalogError Library
  | .joined text => Library.ofCoordinates key text
  | .module text version? =>
    match colonParts text with
    | [group, artifact] => do
      let version? ← VersionSpec.resolve versions key version?
      .ok ⟨key, group, artifact, version?⟩
    | _ => .error (.malformedModule key text)
  | .split group name version? => do
    let version? ← VersionSpec.resolve versions key version?
    .ok ⟨key, group, name, version?⟩

/-- Bring a plugin into form. -/
def PluginEntry.resolve (versions : NameMap String) (key : String) :
    PluginEntry → Except CatalogError Plugin
  | .joined text => .ok (Plugin.ofCoordinates key text)
  | .detailed id version? => do
    let version? ← VersionSpec.resolve versions key version?
    .ok ⟨key, id, version?⟩

namespace Catalog

/-- Every member of a bundle must be a library of the catalog. -/
def checkBundle (catalog : Catalog) (bundle : String) (members : List String) :
    Except CatalogError Unit :=
  match members.find? (!catalog.libraries.contains ·) with
  | some member => .error (.unknownLibrary bundle member)
  | none => .ok ()

/-- Resolve a catalog, or report its first faulty entry. -/
def resolve (catalog : Catalog) : Except CatalogError ResolvedCatalog := do
  let libraries ← catalog.libraries.toList.mapM fun entry =>
    entry.2.resolve catalog.versions entry.1
  catalog.bundles.toList.forM fun entry => catalog.checkBundle entry.1 entry.2
  let plugins ← catalog.plugins.toList.mapM fun entry =>
    entry.2.resolve catalog.versions entry.1
  .ok ⟨libraries, catalog.bundles, plugins⟩

end Catalog

/-- The library of a key. -/
def ResolvedCatalog.library? (catalog : ResolvedCatalog) (key : String) : Option Library :=
  catalog.libraries.find? (·.key == key)

end BuildSettings
