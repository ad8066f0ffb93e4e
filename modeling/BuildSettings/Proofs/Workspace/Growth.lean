/-
# Adding items one at a time

A declaration that resolves is given one more item. Whether it still resolves can be told
from the workspace and the item alone, and so can the new workspace or the error: an item is
refused for a rule that it breaks itself, together with the items that are there already.
An item can break few rules, and the others are kept as they were.

The flag for accessors is the one item that concerns others. It is refused when two modules
would have one accessor, and otherwise gives every module its own.

Declarations grow item by item, so what is said of one item holds for any number of them:
a declaration with more items resolves exactly when the items can be added one after the
other.
-/

import BuildSettings.Proofs.Workspace.Lookup
import BuildSettings.Proofs.Workspace.Verdict
import BuildSettings.Session

namespace BuildSettings

/-- An item of one of the lists of a declaration. -/
inductive Item
  | module (path : ModulePath)
  | feature (flag : Feature)
  | repository (scope : RepositoryScope) (repository : Repository)
  | catalog (catalog : CatalogDeclaration)
  | build (build : Path)

namespace Item

/-- The edit that adds an item. -/
def edit : Item → Edit
  | .module path => .addModule path
  | .feature flag => .addFeature flag
  | .repository .plugin added => .addPluginRepository added
  | .repository .dependency added => .addDependencyRepository added
  | .catalog added => .addCatalog added
  | .build added => .addBuild added

/-- The rules that adding an item can break. -/
def rules : Item → List Rule
  | .module _ => [.modules, .accessors]
  | .feature _ => [.accessors]
  | .repository scope _ => [.locations scope]
  | .catalog _ => [.catalogs]
  | .build _ => [.builds]

end Item

/-! ## What a workspace says about a new item -/

namespace Workspace

/-- The repository list of a scope. -/
def repositories (workspace : Workspace) : RepositoryScope → List Repository
  | .plugin => workspace.pluginRepositories
  | .dependency => workspace.dependencyRepositories

/-- The workspace with one more repository. -/
def addRepository (workspace : Workspace) (repository : Repository) :
    RepositoryScope → Workspace
  | .plugin =>
    { workspace with pluginRepositories := workspace.pluginRepositories ++ [repository] }
  | .dependency =>
    { workspace with
      dependencyRepositories := workspace.dependencyRepositories ++ [repository] }

/-- The module at a path, with an accessor if the workspace has the flag for them. -/
def newModule (workspace : Workspace) (path : ModulePath) : WorkspaceModule where
  path := path
  projectDir := path.projectDir
  accessor? :=
    if workspace.hasFeature .typesafeProjectAccessors then some path.accessor else none

/-- The module with its accessor. -/
def withAccessor (item : WorkspaceModule) : WorkspaceModule :=
  { item with accessor? := some item.path.accessor }

/-- The workspace with one more flag in its set. -/
def addFeature (workspace : Workspace) (flag : Feature) : Workspace :=
  { workspace with features := Feature.distinct (workspace.features ++ [flag]) }

/-- A workspace takes an item and becomes another one. -/
inductive Takes (workspace : Workspace) : Item → Workspace → Prop
  | module {path : ModulePath} : path ∉ workspace.modulePaths →
      (.typesafeProjectAccessors ∉ workspace.features ∨
        ∀ owner ∈ workspace.modules, owner.accessor? ≠ some path.accessor) →
      Takes workspace (.module path)
        { workspace with modules := workspace.modules ++ [workspace.newModule path] }
  | feature {flag : Feature} :
      (flag ∈ workspace.features ∨ flag ≠ .typesafeProjectAccessors) →
      Takes workspace (.feature flag) (workspace.addFeature flag)
  | accessors : .typesafeProjectAccessors ∉ workspace.features →
      (workspace.modulePaths.map ModulePath.accessor).Nodup →
      Takes workspace (.feature .typesafeProjectAccessors)
        { workspace.addFeature .typesafeProjectAccessors with
          modules := workspace.modules.map withAccessor }
  | repository {scope : RepositoryScope} {repository : Repository} :
      Text.trim repository.location ≠ "" →
      Takes workspace (.repository scope repository) (workspace.addRepository repository scope)
  | catalog {catalog : CatalogDeclaration} : workspace.catalog? catalog.name = none →
      Takes workspace (.catalog catalog)
        { workspace with catalogs := workspace.catalogs.insert catalog.name catalog.source }
  | build {build : Path} : (∀ other ∈ workspace.pluginBuilds, other.same build = false) →
      Takes workspace (.build build)
        { workspace with pluginBuilds := workspace.pluginBuilds ++ [build] }

/-- A workspace refuses an item, and this is what is wrong with it. -/
inductive Refuses (workspace : Workspace) : Item → ResolveError → Prop
  | module {path : ModulePath} : path ∈ workspace.modulePaths →
      Refuses workspace (.module path) (.duplicateModule path)
  | accessor {path : ModulePath} {owner : WorkspaceModule} : path ∉ workspace.modulePaths →
      .typesafeProjectAccessors ∈ workspace.features → owner ∈ workspace.modules →
      owner.accessor? = some path.accessor →
      Refuses workspace (.module path) (.duplicateAccessor path.accessor owner.path path)
  | accessors {i j : Nat} {first second : ModulePath} :
      .typesafeProjectAccessors ∉ workspace.features →
      FirstRepeat ModulePath.accessor workspace.modulePaths i j first second →
      Refuses workspace (.feature .typesafeProjectAccessors)
        (.duplicateAccessor second.accessor first second)
  | repository {scope : RepositoryScope} {repository : Repository} :
      Text.trim repository.location = "" →
      Refuses workspace (.repository scope repository)
        (.emptyLocation scope (workspace.repositories scope).length)
  | catalog {catalog : CatalogDeclaration} : workspace.catalog? catalog.name ≠ none →
      Refuses workspace (.catalog catalog) (.duplicateCatalog catalog.name)
  | build {build other : Path} : other ∈ workspace.pluginBuilds → other.same build = true →
      Refuses workspace (.build build) (.duplicateBuild build)

/-- A workspace takes items one after the other. -/
inductive TakesAll : Workspace → List Item → Workspace → Prop
  | nil {workspace : Workspace} : TakesAll workspace [] workspace
  | cons {workspace next grown : Workspace} {item : Item} {rest : List Item} :
      workspace.Takes item next → TakesAll next rest grown →
      TakesAll workspace (item :: rest) grown

end Workspace

namespace Declaration

variable {declaration : Declaration} {workspace grown : Workspace} {item : Item}
  {error : ResolveError} {path : ModulePath}

/-- The declaration with one more item. -/
def add (declaration : Declaration) (item : Item) : Declaration :=
  declaration.edit item.edit

/-! ## Rules that an item can break -/

/-- An item has no influence on the other rules. -/
theorem keeps_add_iff_of_not_mem {rule : Rule} (h : rule ∉ item.rules) :
    (declaration.add item).Keeps rule ↔ declaration.Keeps rule := by
  -- Every rule reads one list only, but for the rule about accessors, which reads two.
  cases item with
  | repository scope repository =>
      cases scope <;> cases rule with
      | locations other => cases other <;> first | rfl | exact absurd (by simp [Item.rules]) h
      | _ => rfl
  | _ => cases rule <;> first | rfl | exact absurd (by simp [Item.rules]) h

section

variable (h : ∀ rule, declaration.Keeps rule)

include h

/-- An item can be added when it breaks none of its rules. -/
theorem resolve_add_eq_ok_iff :
    (declaration.add item).resolve = .ok grown ↔
      (∀ rule ∈ item.rules, (declaration.add item).Keeps rule) ∧
        grown = (declaration.add item).assemble := by
  rw [resolve_eq_ok_iff_keeps]
  apply and_congr_left'
  apply Iff.intro
  · intro hkeeps rule _
    exact hkeeps rule
  · intro hkeeps rule
    by_cases hmem : rule ∈ item.rules
    · exact hkeeps rule hmem
    · exact (keeps_add_iff_of_not_mem hmem).mpr (h rule)

/-- Otherwise the first of its rules that it breaks is reported. -/
theorem resolve_add_eq_error_iff :
    (declaration.add item).resolve = .error error ↔
      ∃ rule ∈ item.rules, (declaration.add item).Breaks rule error ∧
        ∀ other ∈ item.rules, other.place < rule.place → (declaration.add item).Keeps other := by
  have hothers : ∀ other, other ∉ item.rules → (declaration.add item).Keeps other :=
    fun other hother => (keeps_add_iff_of_not_mem hother).mpr (h other)
  have hkeeps : ∀ other, (∀ e, ¬ (declaration.add item).Breaks other e) ↔
      (declaration.add item).Keeps other := by
    intro other
    rw [← check?_eq_none_iff, check?_eq_none_iff_keeps]
  rw [resolve_eq_error_iff, FirstBroken]
  simp only [hkeeps]
  apply exists_congr
  intro rule
  apply Iff.intro
  · rintro ⟨hbreaks, hearlier⟩
    refine ⟨?_, hbreaks, fun other _ => hearlier other⟩
    by_contra hmem
    exact exists_breaks_iff.mp ⟨error, hbreaks⟩ (hothers rule hmem)
  · rintro ⟨-, hbreaks, hearlier⟩
    refine ⟨hbreaks, ?_⟩
    intro other hother
    by_cases hmem : other ∈ item.rules
    · exact hearlier other hmem hother
    · exact hothers other hmem

/-- An item that can break one rule only is refused for breaking it. -/
theorem resolve_add_eq_error_iff_breaks {rule : Rule} (hrules : item.rules = [rule]) :
    (declaration.add item).resolve = .error error ↔ (declaration.add item).Breaks rule error := by
  rw [resolve_add_eq_error_iff h, hrules]
  simp

/-- A module is refused for its path, or else for its accessor. -/
theorem resolve_addModule_eq_error_iff_breaks :
    (declaration.add (.module path)).resolve = .error error ↔
      (declaration.add (.module path)).Breaks .modules error ∨
        (declaration.add (.module path)).Breaks .accessors error ∧
          (declaration.add (.module path)).Keeps .modules := by
  rw [resolve_add_eq_error_iff h]
  simp [Item.rules, Rule.place]

end

/-! ## What the workspace knows of the declaration -/

theorem mem_features_assemble {flag : Feature} :
    flag ∈ declaration.assemble.features ↔ flag ∈ declaration.features :=
  Feature.mem_distinct

theorem newModule_assemble :
    declaration.assemble.newModule path = declaration.workspaceModule path := by
  have hflag : declaration.assemble.hasFeature .typesafeProjectAccessors =
      declaration.generatesAccessors := by
    rw [Bool.eq_iff_iff, generatesAccessors_iff, Workspace.hasFeature, List.contains_iff_mem,
      mem_features_assemble]
  rw [Workspace.newModule, workspaceModule, hflag]

/-- The modules that have an accessor are those whose path gives it, while accessors are
generated. -/
theorem exists_owner_iff {accessor : String} {first : ModulePath} :
    (∃ owner ∈ declaration.assemble.modules, owner.accessor? = some accessor ∧
        owner.path = first) ↔
      Feature.typesafeProjectAccessors ∈ declaration.features ∧ first ∈ declaration.modules ∧
        first.accessor = accessor := by
  apply Iff.intro
  · rintro ⟨owner, howner, haccessor, rfl⟩
    obtain ⟨path, hpath, rfl⟩ := List.mem_map.mp howner
    obtain ⟨hflag, rfl⟩ := accessor?_workspaceModule_eq_some_iff.mp haccessor
    exact ⟨hflag, hpath, rfl⟩
  · rintro ⟨hflag, hfirst, rfl⟩
    exact ⟨declaration.workspaceModule first, List.mem_map_of_mem hfirst,
      accessor?_workspaceModule_eq_some_iff.mpr ⟨hflag, rfl⟩, rfl⟩

/-! ## Adding a module -/

section

variable (h : ∀ rule, declaration.Keeps rule)

include h

theorem nodup_map_id_modules : (declaration.modules.map id).Nodup := by
  rw [List.map_id]
  exact h .modules

theorem keeps_modules_addModule :
    (declaration.add (.module path)).Keeps .modules ↔ path ∉ declaration.modules := by
  have hconcat : ((declaration.modules ++ [path]).map id).Nodup ↔
      path ∉ declaration.modules.map id :=
    nodup_map_concat_iff (nodup_map_id_modules h)
  rwa [List.map_id, List.map_id] at hconcat

theorem keeps_accessors_addModule :
    (declaration.add (.module path)).Keeps .accessors ↔
      (Feature.typesafeProjectAccessors ∈ declaration.features →
        path.accessor ∉ declaration.modules.map ModulePath.accessor) := by
  apply forall_congr'
  intro hflag
  exact nodup_map_concat_iff (h .accessors hflag)

theorem breaks_modules_addModule :
    (declaration.add (.module path)).Breaks .modules error ↔
      path ∈ declaration.modules ∧ error = .duplicateModule path := by
  have hnodup := nodup_map_id_modules h
  apply Iff.intro
  · intro hbreaks
    cases hbreaks with
    | modules hrepeat =>
        obtain ⟨rfl, hfirst, rfl⟩ := (firstRepeat_concat_iff hnodup).mp ⟨_, _, hrepeat⟩
        exact ⟨hfirst, rfl⟩
  · rintro ⟨hmem, rfl⟩
    obtain ⟨i, j, hrepeat⟩ := (firstRepeat_concat_iff hnodup).mpr ⟨rfl, hmem, rfl⟩
    exact .modules hrepeat

theorem breaks_accessors_addModule :
    (declaration.add (.module path)).Breaks .accessors error ↔
      ∃ first, Feature.typesafeProjectAccessors ∈ declaration.features ∧
        first ∈ declaration.modules ∧ first.accessor = path.accessor ∧
          error = .duplicateAccessor path.accessor first path := by
  apply Iff.intro
  · intro hbreaks
    cases hbreaks with
    | @accessors _ _ first _ hflag hrepeat =>
        obtain ⟨rfl, hfirst, haccessor⟩ :=
          (firstRepeat_concat_iff (h .accessors hflag)).mp ⟨_, _, hrepeat⟩
        exact ⟨first, hflag, hfirst, haccessor, rfl⟩
  · rintro ⟨first, hflag, hfirst, haccessor, rfl⟩
    obtain ⟨i, j, hrepeat⟩ :=
      (firstRepeat_concat_iff (h .accessors hflag)).mpr ⟨rfl, hfirst, haccessor⟩
    exact .accessors hflag hrepeat

theorem resolve_addModule_eq_ok_iff :
    (declaration.add (.module path)).resolve = .ok grown ↔
      declaration.assemble.Takes (.module path) grown := by
  have hassemble : (declaration.add (.module path)).assemble =
      { declaration.assemble with
        modules := declaration.assemble.modules ++ [declaration.assemble.newModule path] } := by
    rw [newModule_assemble]
    show (⟨_, _, _, _, _, (declaration.modules ++ [path]).map _, _⟩ : Workspace) = _
    rw [List.map_append]
    rfl
  rw [resolve_add_eq_ok_iff h, hassemble]
  simp only [Item.rules, List.forall_mem_cons, List.not_mem_nil, keeps_modules_addModule h,
    keeps_accessors_addModule h, false_implies, implies_true, and_true]
  apply Iff.intro
  · rintro ⟨⟨hnew, hfree⟩, rfl⟩
    refine .module (by rwa [modulePaths_assemble]) ?_
    by_cases hflag : Feature.typesafeProjectAccessors ∈ declaration.features
    · right
      intro owner howner haccessor
      obtain ⟨-, hfirst, hsame⟩ := exists_owner_iff.mp ⟨owner, howner, haccessor, rfl⟩
      exact hfree hflag (hsame ▸ List.mem_map_of_mem hfirst)
    · left
      rwa [mem_features_assemble]
  · intro htakes
    cases htakes with
    | module hnew hfree =>
        rw [modulePaths_assemble] at hnew
        refine ⟨⟨hnew, ?_⟩, rfl⟩
        intro hflag hmem
        obtain ⟨first, hfirst, hsame⟩ := List.mem_map.mp hmem
        obtain ⟨owner, howner, haccessor, -⟩ := exists_owner_iff.mpr ⟨hflag, hfirst, hsame⟩
        have hnone := hfree.resolve_left (not_not_intro (mem_features_assemble.mpr hflag))
        exact hnone owner howner haccessor

theorem resolve_addModule_eq_error_iff :
    (declaration.add (.module path)).resolve = .error error ↔
      declaration.assemble.Refuses (.module path) error := by
  rw [resolve_addModule_eq_error_iff_breaks h, breaks_modules_addModule h,
    breaks_accessors_addModule h, keeps_modules_addModule h]
  apply Iff.intro
  · rintro (⟨hmem, rfl⟩ | ⟨⟨first, hflag, hfirst, hsame, rfl⟩, hnew⟩)
    · exact .module (by rwa [modulePaths_assemble])
    · obtain ⟨owner, howner, haccessor, rfl⟩ := exists_owner_iff.mpr ⟨hflag, hfirst, hsame⟩
      exact .accessor (by rwa [modulePaths_assemble]) (mem_features_assemble.mpr hflag) howner
        haccessor
  · intro hrefuses
    cases hrefuses with
    | module hmem =>
        rw [modulePaths_assemble] at hmem
        exact .inl ⟨hmem, rfl⟩
    | accessor hnew hflag howner haccessor =>
        rw [modulePaths_assemble] at hnew
        obtain ⟨hflag, hfirst, hsame⟩ := exists_owner_iff.mp ⟨_, howner, haccessor, rfl⟩
        exact .inr ⟨⟨_, hflag, hfirst, hsame, rfl⟩, hnew⟩

end

/-! ## Adding a flag -/

section

variable {flag : Feature}

theorem mem_features_addFeature : flag ∈ (declaration.add (.feature flag)).features :=
  List.mem_append_right _ (List.mem_singleton_self _)

/-- Another flag than that for accessors has no influence on accessors, and neither has a
flag that is set already. -/
theorem mem_features_addFeature_iff
    (hold : flag ∈ declaration.features ∨ flag ≠ .typesafeProjectAccessors) :
    .typesafeProjectAccessors ∈ (declaration.add (.feature flag)).features ↔
      .typesafeProjectAccessors ∈ declaration.features := by
  show .typesafeProjectAccessors ∈ declaration.features ++ [flag] ↔ _
  rw [List.mem_append, List.mem_singleton]
  apply or_iff_left_of_imp
  rintro rfl
  exact hold.resolve_right (not_not_intro rfl)

theorem features_assemble_addFeature (declaration : Declaration) (flag : Feature) :
    (declaration.add (.feature flag)).assemble.features =
      (declaration.assemble.addFeature flag).features := by
  show Feature.distinct (declaration.features ++ [flag]) =
    Feature.distinct (Feature.distinct declaration.features ++ [flag])
  rw [Feature.distinct_eq_iff]
  simp only [List.mem_append, Feature.mem_distinct, implies_true]

theorem assemble_addFeature
    (hold : flag ∈ declaration.features ∨ flag ≠ .typesafeProjectAccessors) :
    (declaration.add (.feature flag)).assemble = declaration.assemble.addFeature flag := by
  have hmodule : (declaration.add (.feature flag)).workspaceModule =
      declaration.workspaceModule :=
    workspaceModule_congr (mem_features_addFeature_iff hold)
  have hfeatures := features_assemble_addFeature declaration flag
  simp only [assemble, Workspace.addFeature] at hfeatures ⊢
  rw [hfeatures, hmodule]
  rfl

/-- With the flag for accessors every module gets one. -/
theorem assemble_addAccessors :
    (declaration.add (.feature .typesafeProjectAccessors)).assemble =
      { declaration.assemble.addFeature .typesafeProjectAccessors with
        modules := declaration.assemble.modules.map Workspace.withAccessor } := by
  have hmodule : (declaration.add (.feature .typesafeProjectAccessors)).workspaceModule =
      Workspace.withAccessor ∘ declaration.workspaceModule := by
    funext path
    rw [workspaceModule, generatesAccessors_iff.mpr mem_features_addFeature]
    rfl
  have hfeatures := features_assemble_addFeature declaration .typesafeProjectAccessors
  simp only [assemble, Workspace.addFeature, List.map_map] at hfeatures ⊢
  rw [hfeatures, hmodule]
  rfl

variable (h : ∀ rule, declaration.Keeps rule)

include h

/-- Where accessors are not concerned, a flag can always be added. -/
theorem resolve_addFeature_eq
    (hold : flag ∈ declaration.features ∨ flag ≠ .typesafeProjectAccessors) :
    (declaration.add (.feature flag)).resolve = .ok (declaration.assemble.addFeature flag) := by
  rw [resolve_add_eq_ok_iff h, assemble_addFeature hold]
  refine ⟨?_, rfl⟩
  intro rule hrule
  obtain rfl := List.mem_singleton.mp hrule
  intro hflag
  exact h .accessors ((mem_features_addFeature_iff hold).mp hflag)

theorem resolve_addAccessors_eq_ok_iff :
    (declaration.add (.feature .typesafeProjectAccessors)).resolve = .ok grown ↔
      (declaration.modules.map ModulePath.accessor).Nodup ∧
        grown = { declaration.assemble.addFeature .typesafeProjectAccessors with
          modules := declaration.assemble.modules.map Workspace.withAccessor } := by
  rw [resolve_add_eq_ok_iff h, assemble_addAccessors]
  simp only [Item.rules, List.forall_mem_singleton, Keeps, mem_features_addFeature, true_implies]
  rfl

theorem resolve_addFeature_eq_ok_iff :
    (declaration.add (.feature flag)).resolve = .ok grown ↔
      declaration.assemble.Takes (.feature flag) grown := by
  by_cases hold : flag ∈ declaration.features ∨ flag ≠ .typesafeProjectAccessors
  · rw [resolve_addFeature_eq h hold, Except.ok.injEq]
    apply Iff.intro
    · rintro rfl
      exact .feature (hold.imp_left mem_features_assemble.mpr)
    · intro htakes
      cases htakes with
      | feature => rfl
      | accessors hnew =>
          rw [mem_features_assemble] at hnew
          exact absurd hold (not_or.mpr ⟨hnew, not_not_intro rfl⟩)
  -- What is left is the flag for accessors when it is new: now their rule must be kept.
  · obtain ⟨hnew, hflag⟩ := not_or.mp hold
    obtain rfl := not_not.mp hflag
    rw [resolve_addAccessors_eq_ok_iff h]
    apply Iff.intro
    · rintro ⟨hnodup, rfl⟩
      refine .accessors (mt mem_features_assemble.mp hnew) ?_
      rwa [modulePaths_assemble]
    · intro htakes
      cases htakes with
      | feature hold' => exact absurd (hold'.imp_left mem_features_assemble.mp) hold
      | accessors _ hnodup =>
          rw [modulePaths_assemble] at hnodup
          exact ⟨hnodup, rfl⟩

theorem breaks_accessors_addFeature :
    (declaration.add (.feature flag)).Breaks .accessors error ↔
      flag = .typesafeProjectAccessors ∧ flag ∉ declaration.features ∧
        ∃ i j first second, FirstRepeat ModulePath.accessor declaration.modules i j first second ∧
          error = .duplicateAccessor second.accessor first second := by
  apply Iff.intro
  · intro hbreaks
    by_cases hold : flag ∈ declaration.features ∨ flag ≠ .typesafeProjectAccessors
    · have hresolve := resolve_addFeature_eq h hold
      rw [(resolve_add_eq_error_iff_breaks h rfl).mpr hbreaks] at hresolve
      cases hresolve
    · obtain ⟨hnew, hflag⟩ := not_or.mp hold
      refine ⟨not_not.mp hflag, hnew, ?_⟩
      cases hbreaks with
      | accessors _ hrepeat => exact ⟨_, _, _, _, hrepeat, rfl⟩
  · rintro ⟨rfl, -, i, j, first, second, hrepeat, rfl⟩
    exact .accessors mem_features_addFeature hrepeat

theorem resolve_addFeature_eq_error_iff :
    (declaration.add (.feature flag)).resolve = .error error ↔
      declaration.assemble.Refuses (.feature flag) error := by
  rw [resolve_add_eq_error_iff_breaks h rfl, breaks_accessors_addFeature h]
  apply Iff.intro
  · rintro ⟨rfl, hnew, i, j, first, second, hrepeat, rfl⟩
    rw [← mem_features_assemble] at hnew
    rw [← modulePaths_assemble] at hrepeat
    exact .accessors hnew hrepeat
  · intro hrefuses
    cases hrefuses with
    | accessors hnew hrepeat =>
        rw [mem_features_assemble] at hnew
        rw [modulePaths_assemble] at hrepeat
        exact ⟨rfl, hnew, _, _, _, _, hrepeat, rfl⟩

end

/-! ## Adding a repository -/

section

variable {scope : RepositoryScope} {repository : Repository}

theorem repositories_addRepository :
    (declaration.add (.repository scope repository)).repositories scope =
      declaration.repositories scope ++ [repository] := by
  cases scope <;> rfl

theorem repositories_assemble :
    declaration.assemble.repositories scope = declaration.repositories scope := by
  cases scope <;> rfl

theorem assemble_addRepository :
    (declaration.add (.repository scope repository)).assemble =
      declaration.assemble.addRepository repository scope := by
  cases scope <;> rfl

/-- Behind locations that are not blank, only the new one can be the first blank one. -/
theorem firstBlankLocation_concat_iff {repositories : List Repository} {index : Nat}
    (hnamed : ∀ other ∈ repositories, Text.trim other.location ≠ "") :
    FirstBlankLocation (repositories ++ [repository]) index ↔
      index = repositories.length ∧ Text.trim repository.location = "" := by
  have hnone : (repositories.findIdx? fun other => Text.blank other.location) = none := by
    rw [List.findIdx?_eq_none_iff]
    intro other hother
    rw [← Bool.not_eq_true, Text.blank_iff_trim_eq_empty]
    exact hnamed other hother
  rw [← findIdx?_blank_eq_some_iff, List.findIdx?_append, hnone, ← Text.blank_iff_trim_eq_empty]
  rw [Option.none_or, List.findIdx?_singleton]
  cases Text.blank repository.location with
  | true => simp [@eq_comm _ index]
  | false => simp

variable (h : ∀ rule, declaration.Keeps rule)

include h

theorem resolve_addRepository_eq_ok_iff :
    (declaration.add (.repository scope repository)).resolve = .ok grown ↔
      declaration.assemble.Takes (.repository scope repository) grown := by
  have hkeeps : (declaration.add (.repository scope repository)).Keeps (.locations scope) ↔
      Text.trim repository.location ≠ "" := by
    rw [Keeps, repositories_addRepository, List.forall_mem_append, List.forall_mem_singleton]
    exact and_iff_right (h (.locations scope))
  rw [resolve_add_eq_ok_iff h, assemble_addRepository]
  simp only [Item.rules, List.forall_mem_singleton, hkeeps]
  apply Iff.intro
  · rintro ⟨hnamed, rfl⟩
    exact .repository hnamed
  · intro htakes
    cases htakes with
    | repository hnamed => exact ⟨hnamed, rfl⟩

theorem resolve_addRepository_eq_error_iff :
    (declaration.add (.repository scope repository)).resolve = .error error ↔
      declaration.assemble.Refuses (.repository scope repository) error := by
  have hfirst {index : Nat} :
      FirstBlankLocation (declaration.repositories scope ++ [repository]) index ↔
        index = (declaration.repositories scope).length ∧ Text.trim repository.location = "" :=
    firstBlankLocation_concat_iff (h (.locations scope))
  rw [resolve_add_eq_error_iff_breaks h rfl]
  apply Iff.intro
  · intro hbreaks
    cases hbreaks with
    | locations hblank =>
        rw [repositories_addRepository, hfirst] at hblank
        obtain ⟨rfl, hblank⟩ := hblank
        rw [← repositories_assemble]
        exact .repository hblank
  · intro hrefuses
    cases hrefuses with
    | repository hblank =>
        apply Breaks.locations
        rw [repositories_addRepository, repositories_assemble, hfirst]
        exact ⟨rfl, hblank⟩

end

/-! ## Adding a catalog or a build -/

section

variable (h : ∀ rule, declaration.Keeps rule) {catalog : CatalogDeclaration} {build : Path}

theorem catalogs_assemble_addCatalog :
    (declaration.add (.catalog catalog)).assemble.catalogs =
      declaration.assemble.catalogs.insert catalog.name catalog.source := by
  show NameMap.ofList ((declaration.catalogs ++ [catalog]).map _) = _
  rw [List.map_append, NameMap.ofList, List.foldl_append]
  rfl

theorem assemble_addCatalog :
    (declaration.add (.catalog catalog)).assemble =
      { declaration.assemble with
        catalogs := declaration.assemble.catalogs.insert catalog.name catalog.source } := by
  rw [← catalogs_assemble_addCatalog]
  rfl

include h

theorem resolve_addCatalog_eq_ok_iff :
    (declaration.add (.catalog catalog)).resolve = .ok grown ↔
      declaration.assemble.Takes (.catalog catalog) grown := by
  have hkeeps : (declaration.add (.catalog catalog)).Keeps .catalogs ↔
      declaration.assemble.catalog? catalog.name = none := by
    rw [catalog?_assemble_eq_none_iff (h .catalogs)]
    exact nodup_map_concat_iff (h .catalogs)
  rw [resolve_add_eq_ok_iff h, assemble_addCatalog]
  simp only [Item.rules, List.forall_mem_singleton, hkeeps]
  apply Iff.intro
  · rintro ⟨hnew, rfl⟩
    exact .catalog hnew
  · intro htakes
    cases htakes with
    | catalog hnew => exact ⟨hnew, rfl⟩

theorem resolve_addCatalog_eq_error_iff :
    (declaration.add (.catalog catalog)).resolve = .error error ↔
      declaration.assemble.Refuses (.catalog catalog) error := by
  rw [resolve_add_eq_error_iff_breaks h rfl]
  apply Iff.intro
  · intro hbreaks
    cases hbreaks with
    | catalogs hrepeat =>
        obtain ⟨rfl, hfirst, hsame⟩ :=
          (firstRepeat_concat_iff (h .catalogs)).mp ⟨_, _, hrepeat⟩
        refine .catalog ?_
        rw [ne_eq, catalog?_assemble_eq_none_iff (h .catalogs), not_not, ← hsame]
        exact List.mem_map_of_mem hfirst
  · intro hrefuses
    cases hrefuses with
    | catalog hold =>
        rw [ne_eq, catalog?_assemble_eq_none_iff (h .catalogs), not_not] at hold
        obtain ⟨first, hfirst, hsame⟩ := List.mem_map.mp hold
        obtain ⟨i, j, hrepeat⟩ :=
          (firstRepeat_concat_iff (h .catalogs)).mpr ⟨rfl, hfirst, hsame⟩
        exact .catalogs hrepeat

theorem resolve_addBuild_eq_ok_iff :
    (declaration.add (.build build)).resolve = .ok grown ↔
      declaration.assemble.Takes (.build build) grown := by
  have hkeeps : (declaration.add (.build build)).Keeps .builds ↔
      ∀ other ∈ declaration.pluginBuilds, other.same build = false := by
    have hconcat : (declaration.add (.build build)).Keeps .builds ↔
        build.components ∉ declaration.pluginBuilds.map Path.components :=
      nodup_map_concat_iff (h .builds)
    rw [hconcat, List.mem_map]
    simp only [← Bool.not_eq_true, Path.same_iff, not_exists, not_and]
  rw [resolve_add_eq_ok_iff h]
  simp only [Item.rules, List.forall_mem_singleton, hkeeps]
  apply Iff.intro
  · rintro ⟨hnew, rfl⟩
    exact .build hnew
  · intro htakes
    cases htakes with
    | build hnew => exact ⟨hnew, rfl⟩

theorem resolve_addBuild_eq_error_iff :
    (declaration.add (.build build)).resolve = .error error ↔
      declaration.assemble.Refuses (.build build) error := by
  rw [resolve_add_eq_error_iff_breaks h rfl]
  apply Iff.intro
  · intro hbreaks
    cases hbreaks with
    | builds hrepeat =>
        obtain ⟨rfl, hfirst, hsame⟩ := (firstRepeat_concat_iff (h .builds)).mp ⟨_, _, hrepeat⟩
        exact .build hfirst (Path.same_iff.mpr hsame)
  · intro hrefuses
    cases hrefuses with
    | build hfirst hsame =>
        obtain ⟨i, j, hrepeat⟩ :=
          (firstRepeat_concat_iff (h .builds)).mpr ⟨rfl, hfirst, Path.same_iff.mp hsame⟩
        exact .builds hrepeat

end

/-! ## Adding whatever item -/

section

variable (h : ∀ rule, declaration.Keeps rule)

include h

theorem resolve_add_eq_ok_iff_takes :
    (declaration.add item).resolve = .ok grown ↔ declaration.assemble.Takes item grown := by
  cases item with
  | module path => exact resolve_addModule_eq_ok_iff h
  | feature flag => exact resolve_addFeature_eq_ok_iff h
  | repository scope repository => exact resolve_addRepository_eq_ok_iff h
  | catalog catalog => exact resolve_addCatalog_eq_ok_iff h
  | build build => exact resolve_addBuild_eq_ok_iff h

theorem resolve_add_eq_error_iff_refuses :
    (declaration.add item).resolve = .error error ↔ declaration.assemble.Refuses item error := by
  cases item with
  | module path => exact resolve_addModule_eq_error_iff h
  | feature flag => exact resolve_addFeature_eq_error_iff h
  | repository scope repository => exact resolve_addRepository_eq_error_iff h
  | catalog catalog => exact resolve_addCatalog_eq_error_iff h
  | build build => exact resolve_addBuild_eq_error_iff h

end

/-- A declaration that resolves still does so with one more item when its workspace takes the
item, and fails otherwise for the reason for which the workspace refuses it. -/
theorem takes_or_refuses_added_item (h : declaration.resolve = .ok workspace) (item : Item) :
    (∀ grown, (declaration.add item).resolve = .ok grown ↔ workspace.Takes item grown) ∧
      ∀ error, (declaration.add item).resolve = .error error ↔ workspace.Refuses item error := by
  obtain ⟨hkeeps, rfl⟩ := resolve_eq_ok_iff_keeps.mp h
  exact ⟨fun grown => resolve_add_eq_ok_iff_takes hkeeps,
    fun error => resolve_add_eq_error_iff_refuses hkeeps⟩

/-- A module that is seen under the accessor of the module `:libs:json-core`. -/
def respelledModule : ModulePath := ⟨["libs", "jsonCore"], by decide, by decide⟩

theorem unsorted_and_remainder_grow :
    (unsortedRemainder.add (.feature .typesafeProjectAccessors)).resolve =
        .ok { unsortedRemainder.assemble.addFeature .typesafeProjectAccessors with
          modules := unsortedRemainder.assemble.modules.map Workspace.withAccessor } ∧
      (unsortedRemainder.add (.build ⟨"build-logic"⟩)).resolve =
        .error (.duplicateBuild ⟨"build-logic"⟩) ∧
      (unsorted.add (.module respelledModule)).resolve =
        .error (.duplicateAccessor "libs.jsonCore" ⟨["libs", "json-core"], by decide, by decide⟩
          respelledModule) := by
  have hremainder : unsortedRemainder.resolve = .ok unsortedRemainder.assemble := rfl
  have hunsorted : unsorted.resolve = .ok unsorted.assemble := rfl
  refine ⟨?_, ?_, ?_⟩
  · apply ((takes_or_refuses_added_item hremainder _).1 _).mpr
    exact .accessors (by decide) (by decide)
  · apply ((takes_or_refuses_added_item hremainder _).2 _).mpr
    have hsame : Path.same ⟨"build-logic/"⟩ ⟨"build-logic"⟩ = true := by decide
    exact .build List.mem_cons_self hsame
  · apply ((takes_or_refuses_added_item hunsorted _).2 _).mpr
    have howner : unsorted.workspaceModule ⟨["libs", "json-core"], by decide, by decide⟩ ∈
        unsorted.assemble.modules :=
      List.mem_cons_self
    have haccessor : respelledModule.accessor = "libs.jsonCore" := by decide +kernel
    rw [← haccessor]
    exact .accessor (by decide) (by decide) howner rfl

/-! ## Adding any number of items -/

/-- The declaration with more items, added from the first to the last. -/
def addAll (declaration : Declaration) (items : List Item) : Declaration :=
  items.foldl add declaration

/-- Adding an item deletes none. -/
theorem partOf_add (declaration : Declaration) (item : Item) :
    declaration.PartOf (declaration.add item) := by
  cases item with
  | module path =>
      exact { PartOf.refl declaration with modules := List.sublist_append_left _ _ }
  | feature flag =>
      exact { PartOf.refl declaration with features := List.sublist_append_left _ _ }
  | repository scope repository =>
      cases scope with
      | plugin =>
          exact { PartOf.refl declaration with
            pluginRepositories := List.sublist_append_left _ _ }
      | dependency =>
          exact { PartOf.refl declaration with
            dependencyRepositories := List.sublist_append_left _ _ }
  | catalog catalog =>
      exact { PartOf.refl declaration with catalogs := List.sublist_append_left _ _ }
  | build build =>
      exact { PartOf.refl declaration with pluginBuilds := List.sublist_append_left _ _ }

theorem partOf_addAll (declaration : Declaration) (items : List Item) :
    declaration.PartOf (declaration.addAll items) := by
  induction items generalizing declaration with
  | nil => exact .refl declaration
  | cons item rest ih => exact (partOf_add declaration item).trans (ih (declaration.add item))

/-- Items can be added when the workspace takes one after the other. Were one of them refused,
those that follow could not help: what breaks a rule still does when more is added. -/
theorem resolve_addAll_eq_ok_iff {items : List Item} (h : declaration.resolve = .ok workspace) :
    (declaration.addAll items).resolve = .ok grown ↔ workspace.TakesAll items grown := by
  induction items generalizing declaration workspace with
  | nil =>
      show declaration.resolve = .ok grown ↔ _
      rw [h, Except.ok.injEq]
      apply Iff.intro
      · rintro rfl
        exact .nil
      · intro htakes
        cases htakes
        rfl
  | cons item rest ih =>
      show ((declaration.add item).addAll rest).resolve = .ok grown ↔ _
      obtain ⟨hkeeps, rfl⟩ := resolve_eq_ok_iff_keeps.mp h
      apply Iff.intro
      · intro hgrown
        have hnext : (declaration.add item).resolve = .ok (declaration.add item).assemble :=
          (partOf_addAll (declaration.add item) rest).within.resolve_eq hgrown
        exact .cons ((resolve_add_eq_ok_iff_takes hkeeps).mp hnext) ((ih hnext).mp hgrown)
      · intro htakes
        cases htakes with
        | cons hnext hrest =>
            exact (ih ((resolve_add_eq_ok_iff_takes hkeeps).mpr hnext)).mpr hrest

end Declaration

end BuildSettings
