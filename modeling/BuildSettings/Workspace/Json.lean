/-
# Workspaces as JSON

The JSON form of a workspace. Catalogs become an object from names to sources;
a module has an accessor only when accessors are enabled.
-/

import BuildSettings.Json
import BuildSettings.Workspace.Basic

namespace BuildSettings

/-- An object with the kind and the location of a repository. -/
def Repository.toJson (repository : Repository) : Json :=
  .object [("kind", .string repository.kind.name), ("location", .string repository.location)]

/-- A path is written as it is spelled. -/
def Path.toJson (path : Path) : Json :=
  .string path.spelling

/-- An object with the path and the directory of a module, and its accessor if
it has one. -/
def WorkspaceModule.toJson (m : WorkspaceModule) : Json :=
  .object <|
    [("path", .string m.path.text), ("project_dir", m.projectDir.toJson)]
      ++ m.accessor?.toList.map fun accessor => ("accessor", .string accessor)

/-- An object with every part of a workspace. -/
def Workspace.toJson (workspace : Workspace) : Json :=
  .object
    [("root_name", .string workspace.rootName),
     ("plugin_repositories", .array (workspace.pluginRepositories.map Repository.toJson)),
     ("dependency_repositories", .array (workspace.dependencyRepositories.map Repository.toJson)),
     ("catalogs", .object (workspace.catalogs.toList.map fun entry => (entry.1, entry.2.toJson))),
     ("features", .array (workspace.features.map fun flag => .string flag.name)),
     ("modules", .array (workspace.modules.map WorkspaceModule.toJson)),
     ("plugin_builds", .array (workspace.pluginBuilds.map Path.toJson))]

end BuildSettings
