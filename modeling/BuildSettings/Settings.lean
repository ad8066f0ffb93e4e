/-
# Settings documents

How a declaration is written down: the section `project` with the name, the
features and the included modules, the sections `plugin-management` and
`dependency-resolution` with their repositories, and a list of catalogs. Only
the name of the project must be given.
-/

import BuildSettings.Declaration
import BuildSettings.Shape.Document

namespace BuildSettings

open Toml (Value)

/-- Read a feature flag: its name, or a table with the name as its only key and
nothing under it. -/
def Feature.ofValue : Value → Except ShapeError Feature
  | .string name => named name
  | .table [] => .error (.featureShape .noKey)
  | .table [(name, payload)] => do
    let flag ← named name
    match payload with
    | .table [] | .array [] | .tables [] => pure flag
    | .table _ | .array _ => .error (.featureShape .filled)
    | .tables _ => .error (.featureShape .filledTables)
    | other => .error (.featureShape (.noTable other.typeName))
  | .table _ => .error (.featureShape .severalKeys)
  | _ => .error (.featureShape .wrongType)
where
  /-- The flag of a name. -/
  named (name : String) : Except ShapeError Feature :=
    match Feature.ofName? name with
    | some flag => .ok flag
    | none => .error (.unknownFeature name)

/-- Read a module path. -/
def ModulePath.ofValue (value : Value) : Except ShapeError ModulePath := do
  let raw ← Shape.text value
  match ModulePath.parse raw with
  | .ok path => pure path
  | .error error => .error (.modulePath error)

/-- The repository that a value describes: a name, or a table with a URL. -/
def Repository.ofValue? : Value → Option Repository
  | .string name => some (.named name)
  | value => (Shape.textField? "url" value).map .ofUrl

/-- Read a repository. -/
def Repository.ofValue : Value → Except ShapeError Repository :=
  Shape.form "RepositoryEntry" Repository.ofValue?

/-- Read the declaration of a catalog. -/
def CatalogDeclaration.ofValue (value : Value) : Except ShapeError CatalogDeclaration := do
  let fields ← Shape.Fields.ofValue "CatalogDeclaration" ["name", "from"] value
  Shape.Part.result
    (CatalogDeclaration.mk <$> fields.required "name" Shape.text
      <*> fields.required "from" Shape.path)

/-- The section about the root project. -/
structure ProjectSection where
  name : String
  features : List Feature
  modules : List ModulePath

/-- Read the section about the root project. -/
def ProjectSection.ofValue (value : Value) : Except ShapeError ProjectSection := do
  let fields ← Shape.Fields.ofValue "ProjectSection" ["name", "features", "include"] value
  Shape.Part.result
    (ProjectSection.mk <$> fields.required "name" Shape.text
      <*> fields.optional "features" (Shape.list Feature.ofValue) []
      <*> fields.optional "include" (Shape.list ModulePath.ofValue) [])

/-- The section about plugins. -/
structure PluginSection where
  repositories : List Repository := []
  builds : List Path := []

/-- Read the section about plugins. -/
def PluginSection.ofValue (value : Value) : Except ShapeError PluginSection := do
  let fields ← Shape.Fields.ofValue "PluginManagementSection" ["repositories", "include-builds"] value
  Shape.Part.result
    (PluginSection.mk <$> fields.optional "repositories" (Shape.list Repository.ofValue) []
      <*> fields.optional "include-builds" (Shape.list Shape.path) [])

/-- Read the section about dependencies, which lists their repositories. -/
def dependencyRepositoriesOfValue (value : Value) : Except ShapeError (List Repository) := do
  let fields ← Shape.Fields.ofValue "DependencyResolutionSection" ["repositories"] value
  Shape.Part.result (fields.optional "repositories" (Shape.list Repository.ofValue) [])

namespace Declaration

/-- The declaration that the sections of a document make up. -/
def ofSections (project : ProjectSection) (plugins : PluginSection)
    (dependencyRepositories : List Repository) (catalogs : List CatalogDeclaration) :
    Declaration where
  rootName := project.name
  features := project.features
  pluginRepositories := plugins.repositories
  dependencyRepositories := dependencyRepositories
  catalogs := catalogs
  modules := project.modules
  pluginBuilds := plugins.builds

/-- Read the sections of a settings document. -/
def ofFields (fields : Shape.Fields) : Except ShapeError Declaration :=
  Shape.Part.result
    (ofSections <$> fields.required "project" ProjectSection.ofValue
      <*> fields.optional "plugin-management" PluginSection.ofValue {}
      <*> fields.optional "dependency-resolution" dependencyRepositoriesOfValue []
      <*> fields.optional "catalogs" (Shape.list CatalogDeclaration.ofValue) [])

/-- Read a settings document. -/
def ofText (text : String) : Except DocumentError Declaration :=
  readDocument ofFields text

end Declaration

/-- The name of settings documents, as a file and in messages. -/
def settingsName : String := "settings.toml"

/-- The failure that a user is shown when a settings document cannot be read. -/
def settingsFailure (error : DocumentError) : Failure :=
  ⟨.settings, error.message settingsName⟩

end BuildSettings
