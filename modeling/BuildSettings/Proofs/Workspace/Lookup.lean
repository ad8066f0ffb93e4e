/-
# Looking things up in a workspace

A workspace keeps its modules in a list, and the one at a path is searched from the front.
Its catalogs are kept in a map, where of two catalogs with one name only the later would be
left. Neither matters, since resolution has rejected whatever is declared twice: there is a
module for a path just when the path is declared, it stands where the path is declared, and
there is a catalog of a name just when one is declared.
-/

import BuildSettings.Proofs.Workspace.Directories
import BuildSettings.Proofs.Workspace.Rearrangement

namespace BuildSettings.Declaration

variable {declaration : Declaration} {workspace : Workspace} {path : ModulePath}
  {item : WorkspaceModule} {name : String}

/-- A path is declared at a position and at no other, and the item is the module for it: it
has the directory of the path, and the accessor of the path just when accessors are enabled. -/
structure Places (declaration : Declaration) (path : ModulePath) (position : Nat)
    (item : WorkspaceModule) : Prop where
  declared : declaration.modules[position]? = some path
  only : ∀ other, declaration.modules[other]? = some path → other = position
  path_eq : item.path = path
  projectDir_eq : item.projectDir = path.projectDir
  accessor?_eq_some_iff : ∀ accessor, item.accessor? = some accessor ↔
    Feature.typesafeProjectAccessors ∈ declaration.features ∧ accessor = path.accessor

/-! ## Modules -/

/-- What is found at a declared path is the module that is made of it. -/
theorem module?_assemble_eq_some_iff :
    declaration.assemble.module? path = some item ↔
      path ∈ declaration.modules ∧ item = declaration.workspaceModule path := by
  have hfind : declaration.assemble.module? path =
      (declaration.modules.find? (· = path)).map declaration.workspaceModule :=
    List.find?_map
  rw [hfind, Option.map_eq_some_iff]
  apply Iff.intro
  · rintro ⟨found, hfound, rfl⟩
    obtain rfl : found = path := by simpa using List.find?_some hfound
    exact ⟨List.mem_of_find?_eq_some hfound, rfl⟩
  · rintro ⟨hmem, rfl⟩
    refine ⟨path, ?_, rfl⟩
    cases hfound : declaration.modules.find? (· = path) with
    | none => exact absurd (List.find?_eq_none.mp hfound path hmem) (by simp)
    | some found =>
        obtain rfl : found = path := by simpa using List.find?_some hfound
        rfl

theorem isSome_module?_assemble :
    (declaration.assemble.module? path).isSome ↔ path ∈ declaration.modules := by
  rw [Option.isSome_iff_exists]
  simp only [module?_assemble_eq_some_iff, exists_and_left, exists_eq, and_true]

/-- The module that is made of a declared path is the one that is placed at it. -/
theorem places_workspaceModule (hkeeps : declaration.Keeps .modules) {position : Nat}
    (hdeclared : declaration.modules[position]? = some path) :
    declaration.Places path position (declaration.workspaceModule path) where
  declared := hdeclared
  only := by
    intro other hother
    obtain ⟨hlt, -⟩ := List.getElem?_eq_some_iff.mp hother
    exact (List.getElem?_inj hlt hkeeps).mp (hother.trans hdeclared.symm)
  path_eq := rfl
  projectDir_eq := rfl
  accessor?_eq_some_iff := fun _ => accessor?_workspaceModule_eq_some_iff

/-- What is found at a path is the module that stands where the path is declared. -/
theorem module?_eq_some_iff (h : declaration.resolve = .ok workspace) :
    workspace.module? path = some item ↔
      ∃ position, workspace.modules[position]? = some item ∧
        declaration.Places path position item := by
  obtain ⟨hkeeps, rfl⟩ := resolve_eq_ok_iff_keeps.mp h
  rw [module?_assemble_eq_some_iff]
  apply Iff.intro
  · rintro ⟨hmem, rfl⟩
    obtain ⟨position, hdeclared⟩ := List.getElem?_of_mem hmem
    refine ⟨position, ?_, places_workspaceModule (hkeeps .modules) hdeclared⟩
    rw [assemble, List.getElem?_map, hdeclared, Option.map_some]
  · rintro ⟨position, hitem, hplaces⟩
    rw [assemble, List.getElem?_map, hplaces.declared, Option.map_some] at hitem
    exact ⟨List.mem_of_getElem? hplaces.declared, (Option.some.inj hitem).symm⟩

/-! ## Catalogs -/

theorem catalog?_assemble_eq_some_iff (hkeeps : declaration.Keeps .catalogs) {source : Path} :
    declaration.assemble.catalog? name = some source ↔ ⟨name, source⟩ ∈ declaration.catalogs := by
  rw [Workspace.catalog?, NameMap.get?_eq_some_iff, (perm_catalogs_assemble hkeeps).mem_iff,
    catalogEntries, List.mem_map]
  apply Iff.intro
  · rintro ⟨⟨_, _⟩, hmem, heq⟩
    obtain ⟨rfl, rfl⟩ := Prod.mk.inj heq
    exact hmem
  · intro hmem
    exact ⟨_, hmem, rfl⟩

theorem catalog?_assemble_eq_none_iff (hkeeps : declaration.Keeps .catalogs) :
    declaration.assemble.catalog? name = none ↔
      name ∉ declaration.catalogs.map CatalogDeclaration.name := by
  rw [Option.eq_none_iff_forall_ne_some, List.mem_map]
  simp only [ne_eq, catalog?_assemble_eq_some_iff hkeeps]
  apply Iff.intro
  · rintro hnone ⟨⟨_, source⟩, hmem, rfl⟩
    exact hnone source hmem
  · intro hnone source hmem
    exact hnone ⟨_, hmem, rfl⟩

/-! ## Everything that can be looked up -/

/-- A workspace answers for what was declared. There is a module for a text that names a path
just when one of the included texts names a path with the same segments, and it is the one
module that stands where the path is declared. The paths of the modules are the declared
ones in their order, each once. There is a catalog of a name just when one is declared, and
it has the declared source. -/
theorem lookups_find_what_is_declared (h : declaration.resolve = .ok workspace) :
    (∀ raws : List String, raws.mapM ModulePath.parse = .ok declaration.modules →
      ∀ raw path, ModulePath.parse raw = .ok path →
        ((workspace.module? path).isSome ↔ ∃ included ∈ raws, ∃ other,
          ModulePath.parse included = .ok other ∧ other.segments = path.segments)) ∧
    (∀ path item, workspace.module? path = some item ↔
      ∃ position, workspace.modules[position]? = some item ∧
        declaration.Places path position item) ∧
    (workspace.modulePaths = declaration.modules ∧ workspace.modulePaths.Nodup) ∧
    ∀ name,
      (∀ source, workspace.catalog? name = some source ↔
        ⟨name, source⟩ ∈ declaration.catalogs) ∧
      (workspace.catalog? name = none ↔
        ∀ catalog ∈ declaration.catalogs, catalog.name ≠ name) := by
  have hresolve := h
  obtain ⟨hkeeps, rfl⟩ := resolve_eq_ok_iff_keeps.mp h
  refine ⟨?_, fun path item => module?_eq_some_iff hresolve, ?_, ?_⟩
  · intro raws hraws raw path _
    rw [isSome_module?_assemble, mem_iff_of_mapM_eq_ok hraws]
    simp only [← ModulePath.ext_iff, exists_eq_right]
  · rw [modulePaths_assemble]
    exact ⟨rfl, hkeeps .modules⟩
  · intro name
    refine ⟨fun source => catalog?_assemble_eq_some_iff (hkeeps .catalogs), ?_⟩
    rw [catalog?_assemble_eq_none_iff (hkeeps .catalogs), List.mem_map]
    simp only [not_exists, not_and, ne_eq]

theorem unsorted_lookups :
    unsorted.resolve = .ok unsorted.assemble ∧
      [" : libs :\tjson-core", "app "].mapM ModulePath.parse = .ok unsorted.modules ∧
      (∃ path item position, ModulePath.parse ":libs: json-core" = .ok path ∧
        unsorted.assemble.module? path = some item ∧
        unsorted.assemble.modules[position]? = some item ∧
        unsorted.Places path position item) ∧
      unsorted.assemble.modulePaths.Nodup ∧
      unsorted.assemble.catalog? "libs" = some ⟨"libs.toml"⟩ ∧
      unsorted.assemble.catalog? "lib" = none := by
  have hresolve : unsorted.resolve = .ok unsorted.assemble := rfl
  have hraws : [" : libs :\tjson-core", "app "].mapM ModulePath.parse = .ok unsorted.modules := rfl
  have hparse : ModulePath.parse ":libs: json-core" =
      .ok ⟨["libs", "json-core"], by decide, by decide⟩ := rfl
  obtain ⟨hmodules, hplaces, ⟨-, hnodup⟩, hcatalogs⟩ := lookups_find_what_is_declared hresolve
  have hfound := (hmodules _ hraws _ _ hparse).mpr
    ⟨" : libs :\tjson-core", List.mem_cons_self, _, rfl, rfl⟩
  obtain ⟨item, hitem⟩ := Option.isSome_iff_exists.mp hfound
  obtain ⟨position, hposition, hplaced⟩ := (hplaces _ item).mp hitem
  refine ⟨hresolve, hraws, ⟨_, item, position, hparse, hitem, hposition, hplaced⟩, hnodup, ?_, ?_⟩
  · exact ((hcatalogs "libs").1 _).mpr (by simp [unsorted])
  · exact (hcatalogs "lib").2.mpr (by simp [unsorted])

end BuildSettings.Declaration
