/-
# Repositories

An entry of a repository list names a repository or gives its URL. A few names
are well known: their URL can be told without asking the build engine.
-/

import BuildSettings.Text.Blank

namespace BuildSettings

/-- The repositories that can be referenced by name alone. -/
inductive WellKnownRepository
  | mavenCentral
  | gradlePluginPortal
  | google
  deriving Repr, DecidableEq

namespace WellKnownRepository

/-- Every well-known repository. -/
def all : List WellKnownRepository := [.mavenCentral, .gradlePluginPortal, .google]

/-- The name used in settings documents. -/
def name : WellKnownRepository → String
  | .mavenCentral => "mavenCentral"
  | .gradlePluginPortal => "gradlePluginPortal"
  | .google => "google"

/-- The URL that artifacts are fetched from. -/
def url : WellKnownRepository → String
  | .mavenCentral => "https://repo.maven.apache.org/maven2"
  | .gradlePluginPortal => "https://plugins.gradle.org/m2"
  | .google => "https://dl.google.com/dl/android/maven2"

/-- The well-known repository of the given name. -/
def ofName? (text : String) : Option WellKnownRepository :=
  all.find? (·.name == text)

end WellKnownRepository

/-- How a repository is addressed. -/
inductive RepositoryKind
  | named
  | url
  deriving Repr, DecidableEq

/-- The word for a way of addressing. -/
def RepositoryKind.name : RepositoryKind → String
  | .named => "named"
  | .url => "url"

/-- One entry of a repository list: how it is addressed, and the name or URL.
Its priority is its position in the list. -/
structure Repository where
  kind : RepositoryKind
  location : String
  deriving Repr, DecidableEq

namespace Repository

/-- A repository referenced by name. -/
def named (name : String) : Repository := ⟨.named, name⟩

/-- A repository referenced by its URL; slashes at the end of it do not count. -/
def ofUrl (url : String) : Repository := ⟨.url, Text.dropTrailing '/' url⟩

/-- The well-known repository that the entry names, if it names one. -/
def wellKnown? (repository : Repository) : Option WellKnownRepository :=
  match repository.kind with
  | .named => WellKnownRepository.ofName? repository.location
  | .url => none

/-- The URL of the repository, when it is known without asking the engine. -/
def url? (repository : Repository) : Option String :=
  match repository.kind with
  | .named => repository.wellKnown?.map (·.url)
  | .url => some repository.location

/-- The entry as it is shown: a well-known name comes with its URL. -/
def display (repository : Repository) : String :=
  match repository.wellKnown? with
  | some known => repository.location ++ " (" ++ known.url ++ ")"
  | none => repository.location

end Repository

end BuildSettings
