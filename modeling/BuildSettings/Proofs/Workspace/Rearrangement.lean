/-
# Rearranging a declaration

A workspace keeps the lists of its declaration, except that the flags become a set
and the catalogs a map. So a declaration can be rearranged without any effect on
its workspace: flags may be repeated and listed in another order, and catalogs may
change places.

What a workspace says can be read back as a declaration. It is a rearrangement of
the declaration that the workspace came from, so it resolves to the same workspace
again.
-/

import BuildSettings.Proofs.NameMap
import BuildSettings.Proofs.Workspace.Validity

namespace BuildSettings

/-! ## Sets of flags -/

namespace Feature

variable {flags others : List Feature} {flag : Feature}

theorem mem_all (flag : Feature) : flag ∈ all := by
  cases flag <;> decide

@[simp]
theorem mem_distinct : flag ∈ distinct flags ↔ flag ∈ flags := by
  rw [distinct, List.mem_filter, List.contains_iff_mem]
  exact and_iff_right (mem_all flag)

theorem nodup_distinct (flags : List Feature) : (distinct flags).Nodup :=
  List.Nodup.filter _ (by decide)

/-- Only the set of the flags counts. -/
theorem distinct_eq_iff :
    distinct flags = distinct others ↔ ∀ flag, flag ∈ flags ↔ flag ∈ others := by
  apply Iff.intro
  · intro h flag
    rw [← mem_distinct, h, mem_distinct]
  · intro h
    apply List.filter_congr
    intro flag _
    rw [Bool.eq_iff_iff, List.contains_iff_mem, List.contains_iff_mem, h]

end Feature

/-! ## Declarations with the same workspace -/

namespace Declaration

variable {declaration other : Declaration} {workspace : Workspace}

/-- The entries that the catalogs make in a map. -/
def catalogEntries (declaration : Declaration) : List (String × Path) :=
  declaration.catalogs.map fun catalog => (catalog.name, catalog.source)

/-- The map of the catalogs has one entry for each of them. -/
theorem perm_catalogs_assemble (hkeeps : declaration.Keeps .catalogs) :
    declaration.assemble.catalogs.toList.Perm declaration.catalogEntries := by
  apply NameMap.perm_toList_ofList
  rw [List.map_map]
  exact hkeeps

/-- The other declaration has the same flags, however often and in whatever order,
and the same catalogs in some order. Everything else is the same. -/
structure Rearranges (declaration other : Declaration) : Prop where
  rootName : other.rootName = declaration.rootName
  features : ∀ flag, flag ∈ other.features ↔ flag ∈ declaration.features
  pluginRepositories : other.pluginRepositories = declaration.pluginRepositories
  dependencyRepositories : other.dependencyRepositories = declaration.dependencyRepositories
  catalogs : other.catalogs.Perm declaration.catalogs
  modules : other.modules = declaration.modules
  pluginBuilds : other.pluginBuilds = declaration.pluginBuilds

namespace Rearranges

theorem within (h : declaration.Rearranges other) : other.Within declaration where
  rootName := h.rootName
  features := fun flag => (h.features flag).mp
  repositories := by
    intro scope
    cases scope with
    | plugin => exact (List.Perm.of_eq h.pluginRepositories).subset
    | dependency => exact (List.Perm.of_eq h.dependencyRepositories).subset
  catalogs := h.catalogs.subperm
  modules := (List.Perm.of_eq h.modules).subperm
  pluginBuilds := (List.Perm.of_eq h.pluginBuilds).subperm

/-- Rearranging keeps every rule. -/
theorem keeps (h : declaration.Rearranges other) {rule : Rule}
    (hkeeps : declaration.Keeps rule) : other.Keeps rule :=
  h.within.keeps hkeeps

/-- Rearranging has no effect on the workspace. Catalogs must have different names
for that, since of two catalogs with one name the later one counts. -/
theorem assemble_eq (h : declaration.Rearranges other) (hkeeps : declaration.Keeps .catalogs) :
    other.assemble = declaration.assemble := by
  have hfeatures : Feature.distinct other.features = Feature.distinct declaration.features :=
    Feature.distinct_eq_iff.mpr h.features
  have hcatalogs : other.assemble.catalogs = declaration.assemble.catalogs := by
    apply NameMap.eq_of_perm
    calc
      List.Perm other.assemble.catalogs.toList other.catalogEntries :=
        perm_catalogs_assemble (h.keeps hkeeps)
      List.Perm _ declaration.catalogEntries := h.catalogs.map _
      List.Perm _ declaration.assemble.catalogs.toList := (perm_catalogs_assemble hkeeps).symm
  have hmodule : other.workspaceModule = declaration.workspaceModule :=
    workspaceModule_congr (h.features _)
  simp only [assemble] at hcatalogs ⊢
  rw [h.rootName, h.pluginRepositories, h.dependencyRepositories, hcatalogs, hfeatures,
    h.modules, hmodule, h.pluginBuilds]

/-- A rearranged declaration resolves to the same workspace. -/
theorem resolve_eq (h : declaration.Rearranges other)
    (hresolve : declaration.resolve = .ok workspace) : other.resolve = .ok workspace := by
  obtain ⟨hkeeps, hworkspace⟩ := resolve_eq_ok_iff_keeps.mp hresolve
  rw [resolve_eq_ok_iff_keeps]
  refine ⟨fun rule => h.keeps (hkeeps rule), ?_⟩
  rw [hworkspace, h.assemble_eq (hkeeps .catalogs)]

end Rearranges

end Declaration

/-! ## Reading a workspace back -/

namespace Workspace

/-- The declaration that a workspace can be read back as. -/
def declaration (workspace : Workspace) : Declaration where
  rootName := workspace.rootName
  features := workspace.features
  pluginRepositories := workspace.pluginRepositories
  dependencyRepositories := workspace.dependencyRepositories
  catalogs := workspace.catalogs.toList.map fun entry => ⟨entry.1, entry.2⟩
  modules := workspace.modulePaths
  pluginBuilds := workspace.pluginBuilds

/-- The workspace says what the declaration says: lists are kept, every module has
its directory and, when accessors are asked for, its accessor, every catalog has one
entry, and the features are the set of the flags. -/
structure Reflects (workspace : Workspace) (declaration : Declaration) : Prop where
  rootName : workspace.rootName = declaration.rootName
  pluginRepositories : workspace.pluginRepositories = declaration.pluginRepositories
  dependencyRepositories : workspace.dependencyRepositories = declaration.dependencyRepositories
  pluginBuilds : workspace.pluginBuilds = declaration.pluginBuilds
  modulePaths : workspace.modulePaths = declaration.modules
  projectDir : ∀ item ∈ workspace.modules, item.projectDir = item.path.projectDir
  accessor? : ∀ item ∈ workspace.modules, ∀ accessor, item.accessor? = some accessor ↔
    Feature.typesafeProjectAccessors ∈ declaration.features ∧ accessor = item.path.accessor
  catalogs : workspace.catalogs.toList.Perm declaration.catalogEntries
  features_nodup : workspace.features.Nodup
  mem_features : ∀ flag, flag ∈ workspace.features ↔ flag ∈ declaration.features

/-- A declaration read back is a rearrangement. -/
theorem Reflects.rearranges {workspace : Workspace} {declaration : Declaration}
    (h : workspace.Reflects declaration) : declaration.Rearranges workspace.declaration where
  rootName := h.rootName
  features := h.mem_features
  pluginRepositories := h.pluginRepositories
  dependencyRepositories := h.dependencyRepositories
  catalogs := by
    have hperm := h.catalogs.map fun entry => (⟨entry.1, entry.2⟩ : CatalogDeclaration)
    rwa [Declaration.catalogEntries, List.map_map, Function.comp_def, List.map_id'] at hperm
  modules := h.modulePaths
  pluginBuilds := h.pluginBuilds

end Workspace

namespace Declaration

variable {declaration : Declaration} {workspace : Workspace}

@[simp]
theorem modulePaths_assemble (declaration : Declaration) :
    declaration.assemble.modulePaths = declaration.modules := by
  rw [Workspace.modulePaths, assemble, List.map_map]
  exact List.map_id declaration.modules

theorem accessor?_workspaceModule_eq_some_iff {path : ModulePath} {accessor : String} :
    (declaration.workspaceModule path).accessor? = some accessor ↔
      Feature.typesafeProjectAccessors ∈ declaration.features ∧ accessor = path.accessor := by
  rw [workspaceModule, ← generatesAccessors_iff]
  cases declaration.generatesAccessors <;> simp [eq_comm]

theorem reflects_assemble (hkeeps : declaration.Keeps .catalogs) :
    declaration.assemble.Reflects declaration where
  rootName := rfl
  pluginRepositories := rfl
  dependencyRepositories := rfl
  pluginBuilds := rfl
  modulePaths := modulePaths_assemble declaration
  projectDir := by
    intro item hitem
    obtain ⟨path, -, rfl⟩ := List.mem_map.mp hitem
    rfl
  accessor? := by
    intro item hitem accessor
    obtain ⟨path, -, rfl⟩ := List.mem_map.mp hitem
    exact accessor?_workspaceModule_eq_some_iff
  catalogs := perm_catalogs_assemble hkeeps
  features_nodup := Feature.nodup_distinct _
  mem_features := fun _ => Feature.mem_distinct

/-- A workspace reflects its declaration, and read back as a declaration it resolves
to itself again. -/
theorem reflects_and_resolves_again (h : declaration.resolve = .ok workspace) :
    workspace.Reflects declaration ∧ workspace.declaration.resolve = .ok workspace := by
  obtain ⟨hkeeps, hworkspace⟩ := resolve_eq_ok_iff_keeps.mp h
  have hreflects : workspace.Reflects declaration := by
    rw [hworkspace]
    exact reflects_assemble (hkeeps .catalogs)
  exact ⟨hreflects, hreflects.rearranges.resolve_eq h⟩

/-- A declaration in which a flag occurs twice and nothing stands in the order of its
names. -/
def unsorted : Declaration where
  rootName := "Demo"
  features := [.stableConfigurationCache, .typesafeProjectAccessors, .stableConfigurationCache]
  pluginRepositories := [.named "google"]
  dependencyRepositories := [.ofUrl "https://jitpack.io/"]
  catalogs := [⟨"test", ⟨"test.toml"⟩⟩, ⟨"libs", ⟨"libs.toml"⟩⟩]
  modules := [⟨["libs", "json-core"], by decide, by decide⟩, ⟨["app"], by decide, by decide⟩]
  pluginBuilds := [⟨"build-logic/"⟩, ⟨"./build-logic"⟩]

theorem unsorted_resolves_again :
    unsorted.resolve = .ok unsorted.assemble ∧
      unsorted.assemble.Reflects unsorted ∧
      unsorted.assemble.declaration.resolve = .ok unsorted.assemble :=
  have hresolve : unsorted.resolve = .ok unsorted.assemble := rfl
  ⟨hresolve, reflects_and_resolves_again hresolve⟩

end Declaration

end BuildSettings
