/-
# Declarations

What a settings document says, before any rule is checked. Lists keep the order
of the document and keep what occurs twice, so that resolution can report it.
-/

import BuildSettings.Feature
import BuildSettings.ModulePath
import BuildSettings.Repository

namespace BuildSettings

/-- A version catalog by name, and the file that holds it, relative to the
directory of the settings document. -/
structure CatalogDeclaration where
  name : String
  source : Path
  deriving Repr

/-- What a settings document declares. -/
structure Declaration where
  rootName : String
  features : List Feature := []
  pluginRepositories : List Repository := []
  dependencyRepositories : List Repository := []
  catalogs : List CatalogDeclaration := []
  modules : List ModulePath := []
  /-- Builds whose plugins are made available to plugin resolution. -/
  pluginBuilds : List Path := []

end BuildSettings
