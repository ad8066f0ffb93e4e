/-
# Workspace listings

Shorter reports of a workspace: its modules with their directories, one a line
with tabs between the columns, and its repositories in order of priority.
-/

import BuildSettings.Workspace.Report

namespace BuildSettings

namespace Workspace

/-- The line of a module, whose directory is seen from the root of the workspace. -/
def moduleRow (rootDir : Path) (m : WorkspaceModule) : String :=
  m.path.text ++ "\t" ++ (rootDir.join m.projectDir).spelling ++
    match m.accessor? with
    | some accessor => "\tprojects." ++ accessor
    | none => ""

/-- The modules of a workspace. -/
def moduleListing (workspace : Workspace) (rootDir : Path) : String :=
  textOfLines <|
    if workspace.isSingleModule then [workspace.rootName ++ " has no included modules."]
    else workspace.modules.map (moduleRow rootDir)

/-- The repositories of a list under a title. -/
def repositoryListing (title : String) (repositories : List Repository) : String :=
  textOfLines <|
    if repositories.isEmpty then [title ++ ": none"]
    else (title ++ ":") :: repositoryLines repositories

end Workspace

end BuildSettings
