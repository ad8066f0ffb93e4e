/-
# Workspaces

The resolved form of a declaration: the modules with their directories and
accessors, the repositories in order of priority, the catalogs by name, and the
set of enabled features. Only resolution makes workspaces; this module holds
what can be asked of one.
-/

import BuildSettings.Declaration
import BuildSettings.NameMap

namespace BuildSettings

/-- A module of a workspace. -/
structure WorkspaceModule where
  path : ModulePath
  /-- The directory of the module, relative to the root of the workspace. -/
  projectDir : Path
  /-- The name for build scripts, when type-safe accessors are enabled. -/
  accessor? : Option String

/-- A resolved workspace. -/
structure Workspace where
  rootName : String
  /-- Highest priority first. -/
  pluginRepositories : List Repository
  /-- Highest priority first. -/
  dependencyRepositories : List Repository
  /-- The source of each catalog. -/
  catalogs : NameMap Path
  /-- The enabled features, each once, in the order in which flags are listed. -/
  features : List Feature
  /-- In the order of the declaration. -/
  modules : List WorkspaceModule
  pluginBuilds : List Path

namespace Workspace

/-- The module at a path. -/
def module? (workspace : Workspace) (path : ModulePath) : Option WorkspaceModule :=
  workspace.modules.find? (·.path = path)

/-- The paths of the modules in order. -/
def modulePaths (workspace : Workspace) : List ModulePath :=
  workspace.modules.map (·.path)

/-- The source of the catalog of a name. -/
def catalog? (workspace : Workspace) (name : String) : Option Path :=
  workspace.catalogs.get? name

/-- The feature is enabled. -/
def hasFeature (workspace : Workspace) (flag : Feature) : Bool :=
  workspace.features.contains flag

/-- The workspace is the root project alone. -/
def isSingleModule (workspace : Workspace) : Bool :=
  workspace.modules.isEmpty

end Workspace

/-- Two modules are the same when their paths, directories and accessors are;
directories are compared by their components. -/
def WorkspaceModule.same (a b : WorkspaceModule) : Bool :=
  a.path = b.path && a.projectDir.same b.projectDir && a.accessor? == b.accessor?

/-- Two workspaces are the same when all their parts are; paths are compared by
their components, so their spelling does not count. -/
def Workspace.same (a b : Workspace) : Bool :=
  a.rootName == b.rootName
    && a.pluginRepositories = b.pluginRepositories
    && a.dependencyRepositories = b.dependencyRepositories
    && a.catalogs.entries.map (fun entry => (entry.1, entry.2.components))
      == b.catalogs.entries.map (fun entry => (entry.1, entry.2.components))
    && a.features = b.features
    && a.modules.length == b.modules.length
    && (a.modules.zip b.modules).all (fun pair => pair.1.same pair.2)
    && a.pluginBuilds.map Path.components == b.pluginBuilds.map Path.components

end BuildSettings
