/-
# Version catalogs

A catalog gives names to versions, libraries, bundles of libraries and plugins.
Libraries and plugins can be written in several forms, and may refer to a
version by its name. This module holds what a catalog says as it is written.
-/

import BuildSettings.NameMap

namespace BuildSettings

/-- A version, or the name of one. -/
inductive VersionSpec
  | literal (version : String)
  | reference (name : String)
  deriving Repr, DecidableEq

/-- A library as it is written. -/
inductive LibraryEntry
  /-- Group, artifact and perhaps a version with colons between them. -/
  | joined (text : String)
  /-- Group and artifact with a colon between them. -/
  | module (text : String) (version? : Option VersionSpec)
  /-- Group and artifact apart. -/
  | split (group name : String) (version? : Option VersionSpec)
  deriving Repr, DecidableEq

/-- A plugin as it is written. -/
inductive PluginEntry
  /-- An identifier and perhaps a version with a colon between them. -/
  | joined (text : String)
  /-- Identifier and version apart. -/
  | detailed (id : String) (version? : Option VersionSpec)
  deriving Repr, DecidableEq

/-- What a catalog says. -/
structure Catalog where
  versions : NameMap String := .empty
  libraries : NameMap LibraryEntry := .empty
  bundles : NameMap (List String) := .empty
  plugins : NameMap PluginEntry := .empty

end BuildSettings
