/-
# When two declarations have the same workspace

Workspaces are compared part by part, and paths by their components. Said of the
declarations, this means that they agree list by list, except that flags are a set,
catalogs belong to their names and builds may be spelled differently. So resolution
forgets the order of catalogs, the order and number of flags and the spelling of
modules, and nothing else.

Catalogs are the one part where the comparison goes through an order of its own:
maps are compared entry by entry in the order of names. Different names let the
entries be compared as sets.
-/

import BuildSettings.Proofs.ModulePath.Spelling
import BuildSettings.Proofs.Workspace.Rearrangement

namespace BuildSettings

/-! ## Comparing workspaces part by part -/

/-- Paths are the same one by one when their components are. -/
theorem Path.forall₂_same_iff {paths others : List Path} :
    List.Forall₂ (fun a b => a.same b = true) paths others ↔
      paths.map components = others.map components := by
  simp only [← List.forall₂_eq_eq_eq, List.forall₂_map_left_iff, List.forall₂_map_right_iff,
    same_iff]

/-- The entries of a map of paths, with the components that these are compared by. -/
def NameMap.components (m : NameMap Path) : List (String × List PathComponent) :=
  m.toList.map fun entry => (entry.1, entry.2.components)

theorem NameMap.sorted_components (m : NameMap Path) :
    (m.components.map Prod.fst).Pairwise (· < ·) := by
  rw [components, List.map_map]
  exact m.sorted

theorem Workspace.same_iff {a b : Workspace} :
    a.same b = true ↔ a.rootName = b.rootName ∧ a.pluginRepositories = b.pluginRepositories ∧
      a.dependencyRepositories = b.dependencyRepositories ∧
      a.catalogs.components = b.catalogs.components ∧ a.features = b.features ∧
      List.Forall₂ (fun item other => item.same other = true) a.modules b.modules ∧
      a.pluginBuilds.map Path.components = b.pluginBuilds.map Path.components := by
  simp only [same, Bool.and_eq_true, beq_iff_eq, decide_eq_true_eq, List.all_eq_true,
    List.forall₂_iff_zip, Prod.forall, NameMap.components, NameMap.toList, and_assoc]

namespace Declaration

variable {first second : Declaration}

/-! ## The parts that need an argument -/

/-- Modules are compared as their paths are when accessors are generated for both
declarations or for none. -/
theorem same_workspaceModule_iff (hflag : first.generatesAccessors = second.generatesAccessors)
    {p q : ModulePath} :
    (first.workspaceModule p).same (second.workspaceModule q) = true ↔ p = q := by
  apply Iff.intro
  · intro h
    simp only [WorkspaceModule.same, Bool.and_eq_true, decide_eq_true_eq] at h
    exact h.1.1
  · rintro rfl
    simp [WorkspaceModule.same, workspaceModule, hflag, Path.same_iff]

/-- The catalogs of a declaration as they are compared. -/
def catalogComponents (declaration : Declaration) : List (String × List PathComponent) :=
  declaration.catalogs.map fun catalog => (catalog.name, catalog.source.components)

theorem perm_components_catalogs {declaration : Declaration}
    (hkeeps : declaration.Keeps .catalogs) :
    declaration.assemble.catalogs.components.Perm declaration.catalogComponents := by
  have hperm := (perm_catalogs_assemble hkeeps).map fun entry => (entry.1, entry.2.components)
  rwa [catalogEntries, List.map_map] at hperm

theorem nodup_catalogComponents {declaration : Declaration}
    (hkeeps : declaration.Keeps .catalogs) : declaration.catalogComponents.Nodup := by
  apply List.Nodup.of_map Prod.fst
  rw [catalogComponents, List.map_map]
  exact hkeeps

/-- Maps of catalogs are compared as sets of catalogs. -/
theorem components_catalogs_eq_iff (hfirst : first.Keeps .catalogs)
    (hsecond : second.Keeps .catalogs) :
    first.assemble.catalogs.components = second.assemble.catalogs.components ↔
      ∀ entry, entry ∈ first.catalogComponents ↔ entry ∈ second.catalogComponents := by
  have hperm := perm_components_catalogs hfirst
  have hperm' := perm_components_catalogs hsecond
  apply Iff.intro
  · intro h entry
    rw [← hperm.mem_iff, h, hperm'.mem_iff]
  · intro h
    apply NameMap.eq_of_perm_of_sorted (NameMap.sorted_components _) (NameMap.sorted_components _)
    have hsame : first.catalogComponents.Perm second.catalogComponents :=
      (List.perm_ext_iff_of_nodup (nodup_catalogComponents hfirst)
        (nodup_catalogComponents hsecond)).mpr h
    exact (hperm.trans hsame).trans hperm'.symm

/-! ## Declarations that agree -/

/-- The declarations agree: lists are the same, builds one by one up to their spelling,
flags as sets, and catalogs have the same names and under each name the same source. -/
structure Agrees (first second : Declaration) : Prop where
  rootName : first.rootName = second.rootName
  pluginRepositories : first.pluginRepositories = second.pluginRepositories
  dependencyRepositories : first.dependencyRepositories = second.dependencyRepositories
  modules : first.modules = second.modules
  pluginBuilds : List.Forall₂ (fun a b => a.same b = true) first.pluginBuilds second.pluginBuilds
  features : ∀ flag, flag ∈ first.features ↔ flag ∈ second.features
  catalogNames : ∀ name,
    name ∈ first.catalogs.map (·.name) ↔ name ∈ second.catalogs.map (·.name)
  catalogSources : ∀ a ∈ first.catalogs, ∀ b ∈ second.catalogs,
    a.name = b.name → a.source.same b.source = true

theorem mem_catalogComponents {declaration : Declaration} {entry : String × List PathComponent} :
    entry ∈ declaration.catalogComponents ↔ ∃ catalog ∈ declaration.catalogs,
      catalog.name = entry.1 ∧ catalog.source.components = entry.2 := by
  simp only [catalogComponents, List.mem_map, Prod.ext_iff]

/-- Catalogs have the same names and sources when they are the same as sets. No two
catalogs may have one name for that. -/
theorem mem_catalogComponents_congr (hsecond : second.Keeps .catalogs) :
    (∀ entry, entry ∈ first.catalogComponents ↔ entry ∈ second.catalogComponents) ↔
      (∀ name, name ∈ first.catalogs.map (·.name) ↔ name ∈ second.catalogs.map (·.name)) ∧
        ∀ a ∈ first.catalogs, ∀ b ∈ second.catalogs,
          a.name = b.name → a.source.same b.source = true := by
  simp only [mem_catalogComponents, List.mem_map, Path.same_iff, Prod.forall]
  apply Iff.intro
  · intro h
    refine ⟨?_, ?_⟩
    · intro name
      apply Iff.intro
      · rintro ⟨a, ha, rfl⟩
        obtain ⟨b, hb, hname, -⟩ := (h a.name a.source.components).mp ⟨a, ha, rfl, rfl⟩
        exact ⟨b, hb, hname⟩
      · rintro ⟨b, hb, rfl⟩
        obtain ⟨a, ha, hname, -⟩ := (h b.name b.source.components).mpr ⟨b, hb, rfl, rfl⟩
        exact ⟨a, ha, hname⟩
    · intro a ha b hb hname
      obtain ⟨c, hc, hcname, hsource⟩ := (h a.name a.source.components).mp ⟨a, ha, rfl, rfl⟩
      obtain rfl := List.inj_on_of_nodup_map hsecond hc hb (hcname.trans hname)
      exact hsource.symm
  · rintro ⟨hnames, hsources⟩ name components
    apply Iff.intro
    · rintro ⟨a, ha, rfl, rfl⟩
      obtain ⟨b, hb, hname⟩ := (hnames a.name).mp ⟨a, ha, rfl⟩
      exact ⟨b, hb, hname, (hsources a ha b hb hname.symm).symm⟩
    · rintro ⟨b, hb, rfl, rfl⟩
      obtain ⟨a, ha, hname⟩ := (hnames b.name).mpr ⟨b, hb, rfl⟩
      exact ⟨a, ha, hname, hsources a ha b hb hname⟩

/-- Two declarations that resolve have the same workspace when they agree. -/
theorem same_assemble_iff (hfirst : first.Keeps .catalogs) (hsecond : second.Keeps .catalogs) :
    first.assemble.same second.assemble = true ↔ first.Agrees second := by
  rw [Workspace.same_iff, components_catalogs_eq_iff hfirst hsecond,
    mem_catalogComponents_congr hsecond]
  simp only [assemble, Feature.distinct_eq_iff, ← Path.forall₂_same_iff,
    List.forall₂_map_left_iff, List.forall₂_map_right_iff]
  have hmodules (hfeatures : ∀ flag, flag ∈ first.features ↔ flag ∈ second.features) :
      List.Forall₂ (fun p q =>
        (first.workspaceModule p).same (second.workspaceModule q) = true)
          first.modules second.modules ↔ first.modules = second.modules := by
    have hflag : first.generatesAccessors = second.generatesAccessors :=
      generatesAccessors_congr (hfeatures _)
    simp only [same_workspaceModule_iff hflag, List.forall₂_eq_eq_eq]
  apply Iff.intro
  · rintro ⟨hname, hplugin, hdependency, ⟨hnames, hsources⟩, hfeatures, hitems, hbuilds⟩
    exact ⟨hname, hplugin, hdependency, (hmodules hfeatures).mp hitems, hbuilds, hfeatures,
      hnames, hsources⟩
  · intro h
    exact ⟨h.rootName, h.pluginRepositories, h.dependencyRepositories,
      ⟨h.catalogNames, h.catalogSources⟩, h.features, (hmodules h.features).mpr h.modules,
      h.pluginBuilds⟩

/-- Two workspaces are the same exactly when their declarations agree. A declaration
keeps its workspace when it is rearranged and its modules are read from whatever
spellings of their paths. -/
theorem same_iff_agrees {workspace other : Workspace} (hfirst : first.resolve = .ok workspace)
    (hsecond : second.resolve = .ok other) :
    (workspace.same other = true ↔ first.Agrees second) ∧
      ∀ rearranged raws, first.Rearranges rearranged →
        List.Forall₂ ModulePath.IsSpelledBy first.modules raws →
          ∃ modules, raws.mapM ModulePath.parse = .ok modules ∧
            { rearranged with modules := modules }.resolve = .ok workspace := by
  refine ⟨?_, ?_⟩
  · obtain ⟨hkeeps, rfl⟩ := resolve_eq_ok_iff_keeps.mp hfirst
    obtain ⟨hkeeps', rfl⟩ := resolve_eq_ok_iff_keeps.mp hsecond
    exact same_assemble_iff (hkeeps .catalogs) (hkeeps' .catalogs)
  · intro rearranged raws hrearranges hraws
    refine ⟨first.modules, ?_, ?_⟩
    · rw [mapM_eq_ok_iff]
      refine hraws.flip.imp ?_
      intro raw path hspelled
      exact ModulePath.parse_eq_ok_iff_isSpelledBy.mpr hspelled
    · rw [← hrearranges.modules]
      exact hrearranges.resolve_eq hfirst

/-- The declaration `unsorted` with its flags and catalogs in another order and its
paths in another spelling. -/
def reordered : Declaration where
  rootName := "Demo"
  features := [.typesafeProjectAccessors, .stableConfigurationCache]
  pluginRepositories := [.named "google"]
  dependencyRepositories := [.ofUrl "https://jitpack.io/"]
  catalogs := [⟨"libs", ⟨"libs.toml/"⟩⟩, ⟨"test", ⟨"test.toml"⟩⟩]
  modules := unsorted.modules
  pluginBuilds := [⟨"build-logic"⟩, ⟨".//build-logic/."⟩]

theorem unsorted_agrees_reordered : unsorted.Agrees reordered where
  rootName := rfl
  pluginRepositories := rfl
  dependencyRepositories := rfl
  modules := rfl
  pluginBuilds := .cons rfl (.cons rfl .nil)
  features := by
    intro flag
    cases flag <;> decide
  catalogNames := by
    intro name
    simp [unsorted, reordered, or_comm]
  catalogSources := by decide

/-- The declaration `unsorted` with each flag once and its catalogs the other way round. -/
def shuffled : Declaration where
  rootName := unsorted.rootName
  features := [.typesafeProjectAccessors, .stableConfigurationCache]
  pluginRepositories := unsorted.pluginRepositories
  dependencyRepositories := unsorted.dependencyRepositories
  catalogs := unsorted.catalogs.reverse
  modules := unsorted.modules
  pluginBuilds := unsorted.pluginBuilds

theorem unsorted_rearranges_shuffled : unsorted.Rearranges shuffled where
  rootName := rfl
  features := fun flag => (unsorted_agrees_reordered.features flag).symm
  pluginRepositories := rfl
  dependencyRepositories := rfl
  catalogs := List.reverse_perm _
  modules := rfl
  pluginBuilds := rfl

theorem unsorted_isSpelledBy :
    List.Forall₂ ModulePath.IsSpelledBy unsorted.modules [" : libs :\tjson-core", "app "] := by
  have hlibs : ModulePath.parse " : libs :\tjson-core" =
      .ok ⟨["libs", "json-core"], by decide, by decide⟩ := rfl
  have happ : ModulePath.parse "app " = .ok ⟨["app"], by decide, by decide⟩ := rfl
  exact .cons (ModulePath.parse_eq_ok_iff_isSpelledBy.mp hlibs)
    (.cons (ModulePath.parse_eq_ok_iff_isSpelledBy.mp happ) .nil)

theorem unsorted_same_reordered :
    unsorted.resolve = .ok unsorted.assemble ∧ reordered.resolve = .ok reordered.assemble ∧
      unsorted.assemble.same reordered.assemble = true ∧
      ∃ modules, [" : libs :\tjson-core", "app "].mapM ModulePath.parse = .ok modules ∧
        { shuffled with modules := modules }.resolve = .ok unsorted.assemble := by
  have hunsorted : unsorted.resolve = .ok unsorted.assemble := rfl
  have hreordered : reordered.resolve = .ok reordered.assemble := rfl
  obtain ⟨hagrees, hrespelled⟩ := same_iff_agrees hunsorted hreordered
  exact ⟨hunsorted, hreordered, hagrees.mpr unsorted_agrees_reordered,
    hrespelled _ _ unsorted_rearranges_shuffled unsorted_isSpelledBy⟩

end Declaration

end BuildSettings
