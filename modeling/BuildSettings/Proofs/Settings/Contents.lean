/-
# The contents of settings documents

What somebody wants to declare is a name and seven lists: feature flags, modules
as texts, plugin repositories, builds, dependency repositories and catalogs with
their sources. A document holds such contents when each list stands under its
keys. The order of the keys and keys that mean nothing do not matter, a list may
be written in either way, and an empty list or section may be left out.

A document is read as exactly what its contents declare, list by list, in the
order of the document and with everything that occurs twice. Only the modules
can be at fault: then the first of them that is no module path is reported.
-/

import BuildSettings.Proofs.Shape.Fields
import BuildSettings.Proofs.Text.Trim
import BuildSettings.Settings

namespace BuildSettings

open Shape (Fields ListsUnder Reads SectionUnder)
open Toml (Value)

/-- An entry of a repository list as it is written. -/
inductive RepositoryEntry
  | bare (name : String)
  | table (url : String)

/-- A repository is what an entry means. A bare entry is a name and is kept as it
is; the URL in a table is kept up to the slashes at its end. -/
def RepositoryEntry.Denotes : RepositoryEntry → Repository → Prop
  | .bare name, repository => repository = ⟨.named, name⟩
  | .table url, repository =>
      repository.kind = .url ∧ repository.location.toList.getLast? ≠ some '/' ∧
        ∃ count, url.toList = repository.location.toList ++ List.replicate count '/'

/-- What a settings document is to declare, as it is written. A catalog is a name
with the path of its file. -/
structure SettingsContents where
  rootName : String
  features : List Feature := []
  modules : List String := []
  pluginRepositories : List RepositoryEntry := []
  pluginBuilds : List String := []
  dependencyRepositories : List RepositoryEntry := []
  catalogs : List (String × String) := []

/-! ## Documents that hold contents -/

/-- A value holds a text. -/
def HoldsText (text : String) (value : Value) : Prop :=
  value = .string text

/-- A value holds a feature flag by its name. -/
def HoldsFeature (flag : Feature) (value : Value) : Prop :=
  HoldsText flag.name value

/-- A value holds a repository entry: it is a text, or a table with one under `url`. -/
def HoldsRepository : RepositoryEntry → Value → Prop
  | .bare name, value => HoldsText name value
  | .table url, value =>
      ∃ entries, value = .table entries ∧ entries.lookup "url" = some (.string url)

/-- A value holds a catalog: a table with its name and where it comes from. -/
def HoldsCatalog (catalog : String × String) (value : Value) : Prop :=
  ∃ entries, value = .table entries ∧ entries.lookup "name" = some (.string catalog.1) ∧
    entries.lookup "from" = some (.string catalog.2)

namespace SettingsContents

/-- A document holds the contents. -/
structure HeldBy (contents : SettingsContents) (document : List (String × Value)) : Prop where
  project : ∃ sect, document.lookup "project" = some (.table sect) ∧
    sect.lookup "name" = some (.string contents.rootName) ∧
    ListsUnder HoldsFeature sect "features" contents.features ∧
    ListsUnder HoldsText sect "include" contents.modules
  plugins : ∃ sect, SectionUnder document "plugin-management" sect ∧
    ListsUnder HoldsRepository sect "repositories" contents.pluginRepositories ∧
    ListsUnder HoldsText sect "include-builds" contents.pluginBuilds
  dependencies : ∃ sect, SectionUnder document "dependency-resolution" sect ∧
    ListsUnder HoldsRepository sect "repositories" contents.dependencyRepositories
  catalogs : ListsUnder HoldsCatalog document "catalogs" contents.catalogs

/-- The declaration says what the contents say, item by item. -/
structure Declares (contents : SettingsContents) (declaration : Declaration) : Prop where
  rootName : declaration.rootName = contents.rootName
  features : declaration.features = contents.features
  modules : List.Forall₂ (fun raw path => ModulePath.parse raw = .ok path)
    contents.modules declaration.modules
  pluginRepositories : List.Forall₂ RepositoryEntry.Denotes
    contents.pluginRepositories declaration.pluginRepositories
  pluginBuilds : declaration.pluginBuilds.map Path.spelling = contents.pluginBuilds
  dependencyRepositories : List.Forall₂ RepositoryEntry.Denotes
    contents.dependencyRepositories declaration.dependencyRepositories
  catalogs : declaration.catalogs.map (fun catalog => (catalog.name, catalog.source.spelling)) =
    contents.catalogs

end SettingsContents

/-! ## Reading one item -/

/-- The repository that an entry is read as. -/
def RepositoryEntry.repository : RepositoryEntry → Repository
  | .bare name => .named name
  | .table url => .ofUrl url

theorem RepositoryEntry.denotes_iff {entry : RepositoryEntry} {repository : Repository} :
    entry.Denotes repository ↔ entry.repository = repository := by
  cases entry with
  | bare name => exact eq_comm
  | table url =>
      obtain ⟨kind, location⟩ := repository
      simp only [Denotes, RepositoryEntry.repository, Repository.ofUrl, Repository.mk.injEq,
        Text.dropTrailing_eq_iff]
      exact and_congr_left' eq_comm

theorem RepositoryEntry.forall₂_denotes_iff {entries : List RepositoryEntry}
    {repositories : List Repository} :
    List.Forall₂ Denotes entries repositories ↔ entries.map repository = repositories := by
  apply forall₂_iff_map_eq
  intro entry other
  exact denotes_iff

/-- A module path is read from a text, and its fault counts as one of the document. -/
def readModule (raw : String) : Except ShapeError ModulePath :=
  (ModulePath.parse raw).mapError .modulePath

theorem readModule_eq_ok_iff {raw : String} {path : ModulePath} :
    readModule raw = .ok path ↔ ModulePath.parse raw = .ok path := by
  rw [readModule]
  cases ModulePath.parse raw <;> simp [Except.mapError]

theorem readModule_eq_error_iff {raw : String} {error : ShapeError} :
    readModule raw = .error error ↔
      ∃ fault, ModulePath.parse raw = .error fault ∧ error = .modulePath fault := by
  rw [readModule]
  cases ModulePath.parse raw <;> simp [Except.mapError, eq_comm]

theorem ModulePath.reads : Reads ModulePath.ofValue HoldsText readModule := by
  intro raw value h
  obtain rfl := h
  rw [readModule, ModulePath.ofValue]
  simp only [Shape.text, bind, Except.bind]
  cases ModulePath.parse raw <;> rfl

theorem Path.reads : Reads Shape.path HoldsText fun text => .ok ⟨text⟩ := by
  intro text value h
  obtain rfl := h
  rfl

theorem Feature.reads : Reads Feature.ofValue HoldsFeature .ok := by
  intro flag value h
  obtain rfl := h
  cases flag <;> rfl

theorem Repository.reads :
    Reads Repository.ofValue HoldsRepository fun entry => .ok entry.repository := by
  intro entry value h
  cases entry with
  | bare name =>
      obtain rfl := h
      rfl
  | table url =>
      obtain ⟨entries, rfl, hurl⟩ := h
      simp only [ofValue, Shape.form, ofValue?, Shape.textField?, hurl, Option.map_some]
      rfl

theorem CatalogDeclaration.reads :
    Reads CatalogDeclaration.ofValue HoldsCatalog
      fun catalog => .ok ⟨catalog.1, ⟨catalog.2⟩⟩ := by
  intro catalog value h
  obtain ⟨entries, rfl, hname, hfrom⟩ := h
  show Shape.Part.result
    (CatalogDeclaration.mk <$> (Fields.ofEntries entries).required "name" Shape.text
      <*> (Fields.ofEntries entries).required "from" Shape.path) = _
  rw [Fields.required, Fields.required, Fields.part_of_lookup hname, Fields.part_of_lookup hfrom]
  rfl

/-! ## Reading the sections -/

namespace SettingsContents

variable {contents : SettingsContents} {sect document : List (String × Value)}

theorem projectSection_ofValue
    (hname : sect.lookup "name" = some (.string contents.rootName))
    (hfeatures : ListsUnder HoldsFeature sect "features" contents.features)
    (hmodules : ListsUnder HoldsText sect "include" contents.modules) :
    ProjectSection.ofValue (.table sect) =
      (contents.modules.mapM readModule).map
        (ProjectSection.mk contents.rootName contents.features) := by
  show Shape.Part.result
    (ProjectSection.mk <$> (Fields.ofEntries sect).required "name" Shape.text
      <*> (Fields.ofEntries sect).optional "features" (Shape.list Feature.ofValue) []
      <*> (Fields.ofEntries sect).optional "include" (Shape.list ModulePath.ofValue) []) = _
  rw [Fields.required, Fields.part_of_lookup hname, Shape.text,
    Fields.optional_list_of_ok hfeatures Feature.reads, List.map_id',
    Fields.optional_list hmodules ModulePath.reads]
  simp

theorem pluginSection_ofValue
    (hrepositories : ListsUnder HoldsRepository sect "repositories" contents.pluginRepositories)
    (hbuilds : ListsUnder HoldsText sect "include-builds" contents.pluginBuilds) :
    PluginSection.ofValue (.table sect) =
      .ok ⟨contents.pluginRepositories.map (·.repository), contents.pluginBuilds.map Path.mk⟩ := by
  show Shape.Part.result
    (PluginSection.mk
      <$> (Fields.ofEntries sect).optional "repositories" (Shape.list Repository.ofValue) []
      <*> (Fields.ofEntries sect).optional "include-builds" (Shape.list Shape.path) []) = _
  rw [Fields.optional_list_of_ok hrepositories Repository.reads,
    Fields.optional_list_of_ok hbuilds Path.reads]
  simp

theorem dependencyRepositoriesOfValue_eq
    (h : ListsUnder HoldsRepository sect "repositories" contents.dependencyRepositories) :
    dependencyRepositoriesOfValue (.table sect) =
      .ok (contents.dependencyRepositories.map (·.repository)) := by
  show Shape.Part.result
    ((Fields.ofEntries sect).optional "repositories" (Shape.list Repository.ofValue) []) = _
  rw [Fields.optional_list_of_ok h Repository.reads]
  simp

/-- The declaration of the contents, given the paths that the modules are read as. -/
def declaration (contents : SettingsContents) (modules : List ModulePath) : Declaration where
  rootName := contents.rootName
  features := contents.features
  pluginRepositories := contents.pluginRepositories.map (·.repository)
  dependencyRepositories := contents.dependencyRepositories.map (·.repository)
  catalogs := contents.catalogs.map fun catalog => ⟨catalog.1, ⟨catalog.2⟩⟩
  modules := modules
  pluginBuilds := contents.pluginBuilds.map Path.mk

/-- The whole document is read as its modules are. -/
theorem ofFields_eq (h : contents.HeldBy document) :
    Declaration.ofFields (.ofEntries document) =
      (contents.modules.mapM readModule).map contents.declaration := by
  obtain ⟨project, hproject, hname, hfeatures, hmodules⟩ := h.project
  obtain ⟨plugins, hplugins, hpluginRepositories, hbuilds⟩ := h.plugins
  obtain ⟨dependencies, hdependencies, hdependencyRepositories⟩ := h.dependencies
  have hnoPlugins : PluginSection.ofValue (.table []) = .ok {} := rfl
  have hnoDependencies : dependencyRepositoriesOfValue (.table []) = .ok [] := rfl
  rw [Declaration.ofFields, Fields.required, Fields.part_of_lookup hproject,
    Fields.optional_section hplugins hnoPlugins,
    Fields.optional_section hdependencies hnoDependencies,
    Fields.optional_list_of_ok h.catalogs CatalogDeclaration.reads,
    projectSection_ofValue hname hfeatures hmodules,
    pluginSection_ofValue hpluginRepositories hbuilds,
    dependencyRepositoriesOfValue_eq hdependencyRepositories]
  cases contents.modules.mapM readModule <;> rfl

theorem declares_iff {declared : Declaration} :
    contents.Declares declared ↔ ∃ modules,
      List.Forall₂ (fun raw path => ModulePath.parse raw = .ok path) contents.modules modules ∧
        contents.declaration modules = declared := by
  apply Iff.intro
  · intro h
    refine ⟨declared.modules, h.modules, ?_⟩
    rw [declaration, ← h.rootName, ← h.features, ← h.pluginBuilds, ← h.catalogs,
      RepositoryEntry.forall₂_denotes_iff.mp h.pluginRepositories,
      RepositoryEntry.forall₂_denotes_iff.mp h.dependencyRepositories]
    simp [Function.comp_def]
  · intro h
    rcases h with ⟨modules, hmodules, rfl⟩
    exact {
      rootName := rfl
      features := rfl
      modules := hmodules
      pluginRepositories := RepositoryEntry.forall₂_denotes_iff.mpr rfl
      pluginBuilds := by simp [declaration, Function.comp_def]
      dependencyRepositories := RepositoryEntry.forall₂_denotes_iff.mpr rfl
      catalogs := by simp [declaration, Function.comp_def] }

/-- A document that holds contents is read as the declaration of these contents,
and of nothing else, when all their modules are module paths. Otherwise the error
is that of the first module that is none. A text is read as the document that it
spells. -/
theorem declares_of_heldBy (h : contents.HeldBy document) :
    (∀ declared, Declaration.ofFields (.ofEntries document) = .ok declared ↔
      contents.Declares declared) ∧
    (∀ error, Declaration.ofFields (.ofEntries document) = .error error ↔
      ∃ passed raw later fault, contents.modules = passed ++ raw :: later ∧
        (∀ other ∈ passed, ∃ path, ModulePath.parse other = .ok path) ∧
        ModulePath.parse raw = .error fault ∧ error = .modulePath fault) ∧
    ∀ text, Toml.document? text = some document →
      Declaration.ofText text =
        (Declaration.ofFields (.ofEntries document)).mapError (.misshapen text) := by
  refine ⟨?_, ?_, ?_⟩
  · intro declared
    rw [ofFields_eq h, map_eq_ok_iff, declares_iff]
    simp only [mapM_eq_ok_iff, readModule_eq_ok_iff]
  · intro error
    rw [ofFields_eq h, map_eq_error_iff, mapM_eq_error_iff]
    simp only [readModule_eq_ok_iff, readModule_eq_error_iff]
    apply Iff.intro
    · intro h
      rcases h with ⟨passed, raw, later, hmodules, hpassed, fault, hfault, herror⟩
      exact ⟨passed, raw, later, fault, hmodules, hpassed, hfault, herror⟩
    · intro h
      rcases h with ⟨passed, raw, later, fault, hmodules, hpassed, hfault, herror⟩
      exact ⟨passed, raw, later, hmodules, hpassed, fault, hfault, herror⟩
  · intro text htext
    exact Shape.readDocument_of_document htext

/-- Contents in which a module and a flag occur twice, once spelled differently. -/
def repeating : SettingsContents where
  rootName := "Demo"
  features := [.stableConfigurationCache, .stableConfigurationCache]
  modules := [":libs: core", "libs:core"]
  dependencyRepositories := [.table "https://jitpack.io//", .bare "internal/"]
  catalogs := [("libs", "gradle/libs.toml")]

/-- A document that holds them, without the section about plugins. -/
def repeatingDocument : List (String × Value) :=
  [("catalogs", .tables [[("from", .string "gradle/libs.toml"), ("name", .string "libs")]]),
   ("dependency-resolution", .table
     [("repositories", .array [.table [("url", .string "https://jitpack.io//")],
       .string "internal/"])]),
   ("project", .table
     [("include", .array [.string ":libs: core", .string "libs:core"]),
      ("name", .string "Demo"),
      ("features", .array [.string "STABLE_CONFIGURATION_CACHE",
        .string "STABLE_CONFIGURATION_CACHE"])])]

theorem repeating_heldBy : repeating.HeldBy repeatingDocument where
  project := ⟨_, rfl, rfl,
    ⟨_, .cons rfl (.cons rfl .nil), .inl ⟨_, rfl, .bracketed _⟩⟩,
    ⟨_, .cons rfl (.cons rfl .nil), .inl ⟨_, rfl, .bracketed _⟩⟩⟩
  plugins := ⟨[], .inr ⟨rfl, rfl⟩, ⟨[], .nil, .inr ⟨rfl, rfl⟩⟩, ⟨[], .nil, .inr ⟨rfl, rfl⟩⟩⟩
  dependencies := ⟨_, .inl rfl,
    ⟨_, .cons ⟨_, rfl, rfl⟩ (.cons rfl .nil), .inl ⟨_, rfl, .bracketed _⟩⟩⟩
  catalogs := ⟨_, .cons ⟨_, rfl, rfl, rfl⟩ .nil, .inl ⟨_, rfl, .headed _⟩⟩

theorem repeating_declared :
    repeating.HeldBy repeatingDocument ∧
      Declaration.ofFields (.ofEntries repeatingDocument) = .ok {
        rootName := "Demo"
        features := [.stableConfigurationCache, .stableConfigurationCache]
        dependencyRepositories := [⟨.url, "https://jitpack.io"⟩, ⟨.named, "internal/"⟩]
        catalogs := [⟨"libs", ⟨"gradle/libs.toml"⟩⟩]
        modules := [⟨["libs", "core"], by decide, by decide⟩,
          ⟨["libs", "core"], by decide, by decide⟩] } := by
  refine ⟨repeating_heldBy, ((declares_of_heldBy repeating_heldBy).1 _).mpr ?_⟩
  exact {
    rootName := rfl
    features := rfl
    modules := .cons rfl (.cons rfl .nil)
    pluginRepositories := .nil
    pluginBuilds := rfl
    dependencyRepositories := .cons ⟨rfl, by decide, 2, by decide⟩ (.cons rfl .nil)
    catalogs := rfl }

end SettingsContents

end BuildSettings
