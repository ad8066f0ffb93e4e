/-
# What a resolved catalog holds

A resolved catalog has one library for each library of the catalog and one plugin for
each of its plugins, in ascending order of their keys. What stands under a key is what
the entry under it says, its version in the place of a reference to it. So looking up a
key finds the library of that key and nothing else, and since bundles are kept as they
are and were checked, every member of a bundle can be looked up.
-/

import BuildSettings.Proofs.Catalog.Forms

namespace BuildSettings

open Text (utf8)

namespace Catalog

variable {catalog : Catalog} {resolved : ResolvedCatalog}

/-! ## Resolving all entries -/

/-- A catalog is resolved when every entry stands for what it says and every member of a
bundle is a library. -/
structure ResolvesTo (catalog : Catalog) (resolved : ResolvedCatalog) : Prop where
  libraries : catalog.libraries.Lists
    (fun key entry library => entry.Denotes catalog.versions key library) resolved.libraries
  members : ∀ bundle members, catalog.bundles.get? bundle = some members →
    ∀ member ∈ members, (catalog.libraries.get? member).isSome
  bundles : resolved.bundles = catalog.bundles
  plugins : catalog.plugins.Lists
    (fun key entry plugin => entry.Denotes catalog.versions key plugin) resolved.plugins

theorem checkBundle_eq_ok_iff {bundle : String} {members : List String} :
    catalog.checkBundle bundle members = .ok () ↔
      ∀ member ∈ members, (catalog.libraries.get? member).isSome := by
  simp only [← NameMap.contains_iff]
  rw [checkBundle]
  cases hfind : members.find? (!catalog.libraries.contains ·) with
  | none => simpa using hfind
  | some member =>
      have hmem := List.mem_of_find?_eq_some hfind
      have hnot := List.find?_some hfind
      apply iff_of_false
      · intro h
        cases h
      · intro hall
        rw [hall member hmem] at hnot
        cases hnot

theorem checkBundles_eq_ok_iff :
    (catalog.bundles.toList.forM fun entry => catalog.checkBundle entry.1 entry.2) = .ok () ↔
      ∀ bundle members, catalog.bundles.get? bundle = some members →
        ∀ member ∈ members, (catalog.libraries.get? member).isSome := by
  simp only [forM_eq_ok_iff, checkBundle_eq_ok_iff, Prod.forall, NameMap.get?_eq_some_iff]

/-- A catalog is resolved entry by entry. -/
theorem resolve_eq_ok_iff : catalog.resolve = .ok resolved ↔ catalog.ResolvesTo resolved := by
  simp only [resolve, bind_eq_ok_iff, mapM_eq_ok_iff, LibraryEntry.resolve_eq_ok_iff,
    PluginEntry.resolve_eq_ok_iff]
  apply Iff.intro
  · intro h
    rcases h with ⟨libraries, hlibraries, _, hbundles, plugins, hplugins, h⟩
    obtain rfl := Except.ok.inj h
    exact ⟨hlibraries, checkBundles_eq_ok_iff.mp hbundles, rfl, hplugins⟩
  · intro h
    obtain ⟨libraries, bundles, plugins⟩ := resolved
    obtain rfl := h.bundles
    exact ⟨libraries, h.libraries, (), checkBundles_eq_ok_iff.mpr h.members, plugins, h.plugins,
      rfl⟩

/-! ## Looking up what was resolved -/

/-- A resolved catalog holds what the catalog says and nothing else. -/
structure Completes (catalog : Catalog) (resolved : ResolvedCatalog) : Prop where
  /-- The keys of the libraries are those of the catalog. -/
  libraryKeys : ∀ key, (∃ library ∈ resolved.libraries, library.key = key) ↔
    (catalog.libraries.get? key).isSome
  librariesAscend : resolved.libraries.Pairwise fun a b => utf8 a.key < utf8 b.key
  /-- Every library is the one that is found under its key. -/
  libraryFound : ∀ library ∈ resolved.libraries, resolved.library? library.key = some library
  /-- What is found under a key stands for the entry under this key. -/
  library : ∀ key entry, catalog.libraries.get? key = some entry →
    ∃ library, resolved.library? key = some library ∧
      entry.Denotes catalog.versions key library
  noLibrary : ∀ key, catalog.libraries.get? key = none → resolved.library? key = none
  /-- The keys of the plugins are those of the catalog. -/
  pluginKeys : ∀ key, (∃ plugin ∈ resolved.plugins, plugin.key = key) ↔
    (catalog.plugins.get? key).isSome
  pluginsAscend : resolved.plugins.Pairwise fun a b => utf8 a.key < utf8 b.key
  /-- Every plugin stands for the entry under its key. -/
  plugin : ∀ plugin ∈ resolved.plugins, ∃ entry,
    catalog.plugins.get? plugin.key = some entry ∧
      entry.Denotes catalog.versions plugin.key plugin
  bundles : resolved.bundles = catalog.bundles
  /-- The members of all bundles can be looked up. -/
  members : ∀ bundle members, resolved.bundles.get? bundle = some members →
    ∀ member ∈ members, (resolved.library? member).isSome

/-- A catalog that can be resolved is resolved to all that it says: it has the libraries and
plugins of the catalog in ascending order of their keys, each with its version, and keeps
the bundles, whose members can all be looked up. -/
theorem completes_of_resolve (h : catalog.resolve = .ok resolved) :
    catalog.Completes resolved := by
  obtain ⟨hlibraries, hmembers, hbundles, hplugins⟩ := resolve_eq_ok_iff.mp h
  have hlibrary : ∀ key entry library,
      LibraryEntry.Denotes catalog.versions key entry library → library.key = key :=
    fun _ _ _ hdenotes => hdenotes.key_eq
  have hplugin : ∀ key entry plugin,
      PluginEntry.Denotes catalog.versions key entry plugin → plugin.key = key :=
    fun _ _ _ hdenotes => hdenotes.key_eq
  have hfound : ∀ key entry, catalog.libraries.get? key = some entry →
      ∃ library, resolved.library? key = some library ∧
        entry.Denotes catalog.versions key library :=
    fun _ _ hentry => hlibraries.find?_eq_some_of_get? hlibrary hentry
  refine {
    libraryKeys := fun key => hlibraries.exists_key_eq_iff hlibrary
    librariesAscend := hlibraries.pairwise_utf8_lt hlibrary
    libraryFound := fun library hmem => hlibraries.find?_key_eq_some hlibrary hmem
    library := hfound
    noLibrary := fun key hnone => hlibraries.find?_eq_none_of_get? hlibrary hnone
    pluginKeys := fun key => hplugins.exists_key_eq_iff hplugin
    pluginsAscend := hplugins.pairwise_utf8_lt hplugin
    plugin := fun plugin hmem => hplugins.get?_key_eq_some hplugin hmem
    bundles := hbundles
    members := ?_ }
  intro bundle members hbundle member hmem
  rw [hbundles] at hbundle
  have hdeclared := hmembers bundle members hbundle member hmem
  obtain ⟨entry, hentry⟩ := Option.isSome_iff_exists.mp hdeclared
  obtain ⟨library, hlookup, -⟩ := hfound member entry hentry
  rw [hlookup]
  rfl

/-- A catalog with entries of all forms, out of order, in which one version reads like the
name of another. -/
def mixed : Catalog where
  versions := .ofList [("kotlin", "2.0.0"), ("alias", "kotlin")]
  libraries := .ofList [("stdlib", .module "lang:stdlib" (some (.reference "kotlin"))),
    ("gson", .joined "json:gson:2.11.0"), ("jupiter", .split "junit" "jupiter" none),
    ("bom", .split "junit" "bom" (some (.reference "alias")))]
  bundles := .ofList [("tests", ["jupiter", "bom"]), ("none", [])]
  plugins := .ofList [("shadow", .joined "shadow:8:3"), ("jvm", .detailed "lang.jvm" none)]

/-- What the catalog is resolved to. -/
def mixedResolved : ResolvedCatalog where
  libraries := [⟨"bom", "junit", "bom", some "kotlin"⟩, ⟨"gson", "json", "gson", some "2.11.0"⟩,
    ⟨"jupiter", "junit", "jupiter", none⟩, ⟨"stdlib", "lang", "stdlib", some "2.0.0"⟩]
  bundles := .ofList [("tests", ["jupiter", "bom"]), ("none", [])]
  plugins := [⟨"jvm", "lang.jvm", none⟩, ⟨"shadow", "shadow", some "8:3"⟩]

theorem mixed_completed :
    mixed.resolve = .ok mixedResolved ∧ mixed.Completes mixedResolved :=
  have hresolve : mixed.resolve = .ok mixedResolved := rfl
  ⟨hresolve, completes_of_resolve hresolve⟩

end Catalog

end BuildSettings
