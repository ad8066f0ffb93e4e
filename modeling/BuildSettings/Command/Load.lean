/-
# Loading from files

A settings document and the catalogs it declares are files. This module finds
and reads them by way of a host, and says at which stage that failed: the
settings file is located, read, parsed and resolved, then a catalog is looked
up, read, parsed and resolved.
-/

import BuildSettings.Catalog.Document
import BuildSettings.Catalog.Resolve
import BuildSettings.FileSystem
import BuildSettings.Interpolation
import BuildSettings.Settings
import BuildSettings.Workspace.Resolve

namespace BuildSettings

/-- At which stage loading failed, and why. -/
inductive LoadError
  | noWorkingDir (error : ReadError)
  | noSettingsFile
  | unreadableSettings (path : Path) (error : ReadError)
  | settings (error : DocumentError)
  | resolution (error : ResolveError)
  | undeclaredCatalog (name : String)
  | unreadableCatalog (path : Path) (error : ReadError)
  | catalogDocument (error : DocumentError)
  | catalog (error : CatalogError)

namespace LoadError

/-- The wording for a file that cannot be read. -/
def unreadable (path : Path) (error : ReadError) : String :=
  "Failed to read " ++ path.spelling ++ ": " ++ error.message

/-- The failure that the user is shown. -/
def toFailure : LoadError → Failure
  | .noWorkingDir error => ⟨.io, error.message⟩
  | .noSettingsFile =>
    ⟨.settings, "Could not find " ++ settingsName ++ " in this directory or any parent"⟩
  | .unreadableSettings path error => ⟨.settings, unreadable path error⟩
  | .settings error => settingsFailure error
  | .resolution error => error.toFailure
  | .undeclaredCatalog name => ⟨.catalog, "No catalog named '" ++ name ++ "' is declared"⟩
  | .unreadableCatalog path error => ⟨.catalog, unreadable path error⟩
  | .catalogDocument error => catalogFailure error
  | .catalog error => error.toFailure

end LoadError

variable {m : Type → Type} [Monad m]

/-- A text with its references replaced by the variables of a host. Only the
variables that are referred to are looked at. -/
def Host.interpolate (host : Host m) (text : String) : m String :=
  interpolateM host.getVariable text

/-- Read a settings file; references to the environment are replaced first. -/
def Declaration.load (host : Host m) (path : Path) : ExceptT LoadError m Declaration := do
  match ← host.read path with
  | .error error => throw (.unreadableSettings path error)
  | .ok text =>
    match Declaration.ofText (← host.interpolate text) with
    | .error error => throw (.settings error)
    | .ok declaration => pure declaration

/-- The settings file: the one that is named, or else the nearest one in the
working directory or above it. -/
def locateSettings (host : Host m) : Option Path → ExceptT LoadError m Path
  | some path => pure path
  | none => do
    match ← host.workingDir with
    | .error error => throw (.noWorkingDir error)
    | .ok start =>
      match ← (findAncestor host.isFile settingsName start : m (Option Path)) with
      | none => throw .noSettingsFile
      | some dir => pure (dir.join ⟨settingsName⟩)

/-- A workspace with the directory that its settings file is in. -/
structure LoadedWorkspace where
  rootDir : Path
  workspace : Workspace

/-- Locate, read and resolve the settings file. -/
def LoadedWorkspace.load (host : Host m) (settings? : Option Path) :
    ExceptT LoadError m LoadedWorkspace := do
  let path ← locateSettings host settings?
  let declaration ← Declaration.load host path
  match declaration.resolve with
  | .error error => throw (.resolution error)
  | .ok workspace => pure ⟨path.parent?.getD ⟨"."⟩, workspace⟩

/-- Read and resolve a catalog that a workspace declares; its source is seen from
the root of the workspace. -/
def LoadedWorkspace.loadCatalog (loaded : LoadedWorkspace) (host : Host m) (name : String) :
    ExceptT LoadError m (Path × ResolvedCatalog) := do
  match loaded.workspace.catalog? name with
  | none => throw (.undeclaredCatalog name)
  | some source =>
    let path := loaded.rootDir.join source
    match ← host.read path with
    | .error error => throw (.unreadableCatalog path error)
    | .ok text =>
      match Catalog.ofText text with
      | .error error => throw (.catalogDocument error)
      | .ok catalog =>
        match catalog.resolve with
        | .error error => throw (.catalog error)
        | .ok resolved => pure (source, resolved)

end BuildSettings
