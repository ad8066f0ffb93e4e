/-
# Workspace reports

A workspace as text for people to read: a heading with a count for each part,
and the items below it. Parts that are usually empty are left out when they are.
-/

import BuildSettings.Workspace.Basic

namespace BuildSettings

namespace Workspace

/-- Every line followed by a line break. -/
def textOfLines (lines : List String) : String :=
  String.join (lines.map (· ++ "\n"))

/-- A heading with the number of items below it. -/
def heading (title : String) (count : Nat) : String :=
  title ++ " (" ++ Nat.repr count ++ "):"

/-- The line of a module. -/
def moduleLine (m : WorkspaceModule) : String :=
  "  " ++ m.path.text ++ " -> " ++ m.projectDir.spelling ++
    match m.accessor? with
    | some accessor => " (projects." ++ accessor ++ ")"
    | none => ""

/-- The lines of a repository list, numbered from one. -/
def repositoryLines (repositories : List Repository) : List String :=
  repositories.mapIdx fun index repository =>
    "  " ++ Nat.repr (index + 1) ++ ". " ++ repository.display

/-- The lines of the report. -/
def reportLines (workspace : Workspace) : List String :=
  ["Root project: " ++ workspace.rootName]
    ++ (if workspace.features.isEmpty then []
      else ["Features: " ++ ", ".intercalate (workspace.features.map Feature.name)])
    ++ [heading "Modules" workspace.modules.length]
    ++ workspace.modules.map moduleLine
    ++ [heading "Plugin repositories" workspace.pluginRepositories.length]
    ++ repositoryLines workspace.pluginRepositories
    ++ [heading "Dependency repositories" workspace.dependencyRepositories.length]
    ++ repositoryLines workspace.dependencyRepositories
    ++ (if workspace.pluginBuilds.isEmpty then []
      else heading "Included plugin builds" workspace.pluginBuilds.length
        :: workspace.pluginBuilds.map fun build => "  " ++ build.spelling)
    ++ (if workspace.catalogs.isEmpty then []
      else heading "Catalogs" workspace.catalogs.size
        :: workspace.catalogs.toList.map fun entry =>
          "  " ++ entry.1 ++ " -> " ++ entry.2.spelling)

/-- The report of a workspace. -/
def report (workspace : Workspace) : String :=
  textOfLines workspace.reportLines

end Workspace

end BuildSettings
