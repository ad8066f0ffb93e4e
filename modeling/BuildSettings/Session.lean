/-
# Editing sessions

A declaration that is built up step by step, with the workspace it last resolved
to. An edit changes the declaration only; the workspace changes when resolution
succeeds and is left as it was when it fails.
-/

import BuildSettings.Workspace.Resolve

namespace BuildSettings

/-- The lists of a declaration. -/
inductive DeclarationList
  | features
  | pluginRepositories
  | dependencyRepositories
  | catalogs
  | modules
  | pluginBuilds
  deriving Repr, DecidableEq

/-- A change of a declaration. -/
inductive Edit
  /-- Start afresh with a name. -/
  | new (name : String)
  | rename (name : String)
  /-- Take another declaration. -/
  | load (declaration : Declaration)
  | addModule (path : ModulePath)
  | addFeature (flag : Feature)
  | addPluginRepository (repository : Repository)
  | addDependencyRepository (repository : Repository)
  | addCatalog (catalog : CatalogDeclaration)
  | addBuild (build : Path)
  /-- Remove the last item of a list, if it has one. -/
  | drop (list : DeclarationList)

/-- The declaration without the last item of a list. -/
def Declaration.dropLast (declaration : Declaration) : DeclarationList → Declaration
  | .features => { declaration with features := declaration.features.dropLast }
  | .pluginRepositories =>
    { declaration with pluginRepositories := declaration.pluginRepositories.dropLast }
  | .dependencyRepositories =>
    { declaration with dependencyRepositories := declaration.dependencyRepositories.dropLast }
  | .catalogs => { declaration with catalogs := declaration.catalogs.dropLast }
  | .modules => { declaration with modules := declaration.modules.dropLast }
  | .pluginBuilds => { declaration with pluginBuilds := declaration.pluginBuilds.dropLast }

/-- The declaration after an edit; items are added at the end of their list. -/
def Declaration.edit (declaration : Declaration) : Edit → Declaration
  | .new name => { rootName := name }
  | .rename name => { declaration with rootName := name }
  | .load other => other
  | .addModule path => { declaration with modules := declaration.modules ++ [path] }
  | .addFeature flag => { declaration with features := declaration.features ++ [flag] }
  | .addPluginRepository repository =>
    { declaration with pluginRepositories := declaration.pluginRepositories ++ [repository] }
  | .addDependencyRepository repository =>
    { declaration with
      dependencyRepositories := declaration.dependencyRepositories ++ [repository] }
  | .addCatalog catalog => { declaration with catalogs := declaration.catalogs ++ [catalog] }
  | .addBuild build => { declaration with pluginBuilds := declaration.pluginBuilds ++ [build] }
  | .drop list => declaration.dropLast list

/-- A declaration under construction, and the workspace it last resolved to. -/
structure Session where
  declaration : Declaration
  workspace? : Option Workspace := none

namespace Session

/-- The session after an edit. -/
def edit (session : Session) (change : Edit) : Session :=
  { session with declaration := session.declaration.edit change }

/-- Resolve the declaration: the workspace, with whether it is the same as the
last one if there was one, and the session that remembers it. -/
def resolve (session : Session) : Except ResolveError (Workspace × Option Bool × Session) := do
  let workspace ← session.declaration.resolve
  .ok (workspace, session.workspace?.map (·.same workspace),
    { session with workspace? := some workspace })

end Session

end BuildSettings
