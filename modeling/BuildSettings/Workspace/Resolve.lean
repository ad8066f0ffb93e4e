/-
# Resolution

A declaration becomes a workspace unless it breaks a rule. The rules are checked
in a fixed order: the root name, the module paths, the accessors when type-safe
accessors are enabled, the catalog names, the repository locations, the included
builds. The first rule that is broken is the one reported, at the first place
where it is broken.
-/

import BuildSettings.Workspace.Basic

namespace BuildSettings

/-- Which of the two repository lists an entry stands in. -/
inductive RepositoryScope
  | plugin
  | dependency
  deriving Repr, DecidableEq

/-- The word for a repository list. -/
def RepositoryScope.name : RepositoryScope → String
  | .plugin => "plugin"
  | .dependency => "dependency"

/-- Why a declaration cannot be resolved. -/
inductive ResolveError
  /-- The root project has no name. -/
  | blankName
  /-- A module is included twice. -/
  | duplicateModule (path : ModulePath)
  /-- Two modules would be seen under one accessor. -/
  | duplicateAccessor (accessor : String) (first second : ModulePath)
  /-- Two catalogs share a name. -/
  | duplicateCatalog (name : String)
  /-- A repository has a blank location; positions count from zero. -/
  | emptyLocation (scope : RepositoryScope) (index : Nat)
  /-- A build is included twice; the later spelling is told. -/
  | duplicateBuild (build : Path)

namespace ResolveError

/-- The wording of an error. -/
def message : ResolveError → String
  | .blankName => "root project name must not be empty"
  | .duplicateModule path => "module '" ++ path.text ++ "' is included more than once"
  | .duplicateAccessor accessor first second =>
    "modules '" ++ first.text ++ "' and '" ++ second.text ++
      "' both generate accessor 'projects." ++ accessor ++ "'"
  | .duplicateCatalog name => "version catalog '" ++ name ++ "' is declared more than once"
  | .emptyLocation scope index =>
    scope.name ++ " repository #" ++ Nat.repr index ++ " has an empty location"
  | .duplicateBuild build => "plugin build '" ++ build.spelling ++ "' is included more than once"

/-- The advice for an error, where there is a particular one. -/
def help? : ResolveError → Option String
  | .blankName => some "Set `name` in the [project] section"
  | .duplicateAccessor .. =>
    some "Rename one of the modules or disable TYPESAFE_PROJECT_ACCESSORS"
  | _ => none

/-- The failure that the user is shown. -/
def toFailure (error : ResolveError) : Failure :=
  ⟨.resolution, error.message⟩

end ResolveError

/-- The first of some items whose key is among those `seen` or occurs earlier in
the list, behind the item that has the key already. Items come with their keys. -/
def firstRepeatAfter? {α κ : Type} [DecidableEq κ] (seen : List (κ × α)) :
    List (κ × α) → Option (α × α)
  | [] => none
  | (key, item) :: rest =>
    match seen.lookup key with
    | some other => some (other, item)
    | none => firstRepeatAfter? ((key, item) :: seen) rest

/-- The first item whose key an earlier item has, behind that earlier item. -/
def firstRepeat? {α κ : Type} [DecidableEq κ] (key : α → κ) (items : List α) : Option (α × α) :=
  firstRepeatAfter? [] (items.map fun item => (key item, item))

namespace Declaration

/-- Type-safe accessors are generated for the modules. -/
def generatesAccessors (declaration : Declaration) : Bool :=
  declaration.features.contains .typesafeProjectAccessors

/-- The root project must have a name that is not blank. -/
def nameViolation? (declaration : Declaration) : Option ResolveError :=
  if Text.blank declaration.rootName then some .blankName else none

/-- No module may be included twice. -/
def moduleViolation? (declaration : Declaration) : Option ResolveError :=
  (firstRepeat? id declaration.modules).map fun pair => .duplicateModule pair.2

/-- No two modules may have one accessor, when accessors are generated. -/
def accessorViolation? (declaration : Declaration) : Option ResolveError :=
  if declaration.generatesAccessors then
    (firstRepeat? ModulePath.accessor declaration.modules).map fun pair =>
      .duplicateAccessor pair.2.accessor pair.1 pair.2
  else none

/-- No two catalogs may share a name. -/
def catalogViolation? (declaration : Declaration) : Option ResolveError :=
  (firstRepeat? CatalogDeclaration.name declaration.catalogs).map fun pair =>
    .duplicateCatalog pair.2.name

/-- Every repository of a list must have a location that is not blank. -/
def locationViolation? (scope : RepositoryScope) (repositories : List Repository) :
    Option ResolveError :=
  (repositories.findIdx? fun repository => Text.blank repository.location).map
    (.emptyLocation scope)

/-- No build may be included twice. Builds are compared by their components, so spellings
that differ in these are different builds. -/
def buildViolation? (declaration : Declaration) : Option ResolveError :=
  (firstRepeat? Path.components declaration.pluginBuilds).map fun pair => .duplicateBuild pair.2

/-- The first broken rule, in the order in which the rules are checked. -/
def violation? (declaration : Declaration) : Option ResolveError :=
  declaration.nameViolation?
    <|> declaration.moduleViolation?
    <|> declaration.accessorViolation?
    <|> declaration.catalogViolation?
    <|> locationViolation? .plugin declaration.pluginRepositories
    <|> locationViolation? .dependency declaration.dependencyRepositories
    <|> declaration.buildViolation?

/-- A module path with its directory, and with its accessor if accessors are
generated. -/
def workspaceModule (declaration : Declaration) (path : ModulePath) : WorkspaceModule where
  path := path
  projectDir := path.projectDir
  accessor? := if declaration.generatesAccessors then some path.accessor else none

/-- The workspace of a declaration that breaks no rule. -/
def assemble (declaration : Declaration) : Workspace where
  rootName := declaration.rootName
  pluginRepositories := declaration.pluginRepositories
  dependencyRepositories := declaration.dependencyRepositories
  catalogs := .ofList (declaration.catalogs.map fun catalog => (catalog.name, catalog.source))
  features := Feature.distinct declaration.features
  modules := declaration.modules.map declaration.workspaceModule
  pluginBuilds := declaration.pluginBuilds

/-- The workspace of a declaration, or the first rule that it breaks. -/
def resolve (declaration : Declaration) : Except ResolveError Workspace :=
  match declaration.violation? with
  | some error => .error error
  | none => .ok declaration.assemble

end Declaration

end BuildSettings
