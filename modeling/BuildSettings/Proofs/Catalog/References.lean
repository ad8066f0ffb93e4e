/-
# References to versions

A reference stands for the version of its name, and nothing else about it is seen by
resolution. A catalog that can be resolved may as well give these versions in place of
the references, and then it does not need its table of versions any more. Versions can
also be renamed, in the table and wherever they are referred to, as long as names in use
stay apart: then the same catalogs can be resolved, with the same result, and of the
others the same entry is at fault.

Both changes rewrite the versions of entries and the table at the same time, such that
every version that an entry gives comes to the same as before. That is all that is used.
-/

import BuildSettings.Proofs.Catalog.Completeness

namespace BuildSettings

/-! ## Rewriting versions -/

/-- The version in place of a reference to it, if there is one. -/
def VersionSpec.inline (versions : NameMap String) : VersionSpec → VersionSpec
  | .literal version => .literal version
  | .reference name =>
    match versions.get? name with
    | some version => .literal version
    | none => .reference name

/-- A reference to the new name of what is referred to. -/
def VersionSpec.rename (change : String → String) : VersionSpec → VersionSpec
  | .literal version => .literal version
  | .reference name => .reference (change name)

/-- The version that an entry of a library gives, other than within a text. -/
def LibraryEntry.version? : LibraryEntry → Option VersionSpec
  | .joined _ => none
  | .module _ version? => version?
  | .split _ _ version? => version?

/-- The version that an entry of a plugin gives, other than within a text. -/
def PluginEntry.version? : PluginEntry → Option VersionSpec
  | .joined _ => none
  | .detailed _ version? => version?

/-- The entry with its version rewritten. -/
def LibraryEntry.mapVersion (rewrite : VersionSpec → VersionSpec) : LibraryEntry → LibraryEntry
  | .joined text => .joined text
  | .module text version? => .module text (version?.map rewrite)
  | .split group name version? => .split group name (version?.map rewrite)

/-- The entry with its version rewritten. -/
def PluginEntry.mapVersion (rewrite : VersionSpec → VersionSpec) : PluginEntry → PluginEntry
  | .joined text => .joined text
  | .detailed id version? => .detailed id (version?.map rewrite)

/-- The error with the missing version under its new name. -/
def CatalogError.rename (change : String → String) : CatalogError → CatalogError
  | .malformedLibrary key text => .malformedLibrary key text
  | .malformedModule key text => .malformedModule key text
  | .unknownVersion key reference => .unknownVersion key (change reference)
  | .unknownLibrary bundle member => .unknownLibrary bundle member

namespace Catalog

/-- The entry with its version rewritten. -/
def Entry.mapVersion (rewrite : VersionSpec → VersionSpec) : Entry → Entry
  | .library key entry => .library key (entry.mapVersion rewrite)
  | .member bundle position name => .member bundle position name
  | .plugin key entry => .plugin key (entry.mapVersion rewrite)

/-- The catalog with the versions of all entries rewritten, and another table of versions. -/
def mapVersions (catalog : Catalog) (rewrite : VersionSpec → VersionSpec)
    (versions : NameMap String) : Catalog where
  versions := versions
  libraries := catalog.libraries.mapValues (·.mapVersion rewrite)
  bundles := catalog.bundles
  plugins := catalog.plugins.mapValues (·.mapVersion rewrite)

/-- The catalog with the versions in place of all references to them, and another table of
versions. -/
def inline (catalog : Catalog) (versions : NameMap String) : Catalog :=
  catalog.mapVersions (.inline catalog.versions) versions

/-- The catalog with its versions renamed, in the table and in all references. -/
def rename (catalog : Catalog) (change : String → String) : Catalog :=
  catalog.mapVersions (.rename change) (catalog.versions.mapNames change)

/-- An entry of the catalog gives a version, or none. -/
inductive Gives (catalog : Catalog) : Option VersionSpec → Prop
  | library {key entry} : catalog.libraries.get? key = some entry → Gives catalog entry.version?
  | plugin {key entry} : catalog.plugins.get? key = some entry → Gives catalog entry.version?

/-- The name of a version is in use: there is a version of that name, or a reference to it. -/
inductive UsesName (catalog : Catalog) : String → Prop
  | version {name version} : catalog.versions.get? name = some version → UsesName catalog name
  | reference {name} : catalog.Gives (some (.reference name)) → UsesName catalog name

end Catalog

/-! ## Rewriting one entry -/

section Entries

variable {versions others : NameMap String} {rewrite : VersionSpec → VersionSpec}
  {change : String → String} {key : String}

/-- An entry of a library is resolved as before when its version is. -/
theorem LibraryEntry.resolve_mapVersion {entry : LibraryEntry}
    (h : VersionSpec.resolve others key (entry.version?.map rewrite) =
      (VersionSpec.resolve versions key entry.version?).mapError (CatalogError.rename change)) :
    (entry.mapVersion rewrite).resolve others key =
      (entry.resolve versions key).mapError (CatalogError.rename change) := by
  cases entry with
  | joined text =>
      rw [mapVersion, resolve, resolve, Library.ofCoordinates]
      split <;> rfl
  | module text version? =>
      rw [LibraryEntry.version?] at h
      rw [mapVersion, resolve, resolve, h]
      split
      · cases VersionSpec.resolve versions key version? <;> rfl
      · rfl
  | split group name version? =>
      rw [LibraryEntry.version?] at h
      rw [mapVersion, resolve, resolve, h]
      cases VersionSpec.resolve versions key version? <;> rfl

/-- An entry of a plugin is resolved as before when its version is. -/
theorem PluginEntry.resolve_mapVersion {entry : PluginEntry}
    (h : VersionSpec.resolve others key (entry.version?.map rewrite) =
      (VersionSpec.resolve versions key entry.version?).mapError (CatalogError.rename change)) :
    (entry.mapVersion rewrite).resolve others key =
      (entry.resolve versions key).mapError (CatalogError.rename change) := by
  cases entry with
  | joined text => rfl
  | detailed id version? =>
      rw [PluginEntry.version?] at h
      rw [mapVersion, resolve, resolve, h]
      cases VersionSpec.resolve versions key version? <;> rfl

end Entries

namespace Catalog

/-! ## Rewriting all entries -/

/-- The order of entries is a matter of their keys. -/
theorem Entry.precedes_mapVersion_iff {rewrite : VersionSpec → VersionSpec} {a b : Entry} :
    (a.mapVersion rewrite).Precedes (b.mapVersion rewrite) ↔ a.Precedes b := by
  cases a <;> cases b <;> rfl

/-- The entries of a rewritten catalog are the rewritten entries of the catalog. -/
theorem has_mapVersions_iff {catalog : Catalog} {rewrite : VersionSpec → VersionSpec}
    {versions : NameMap String} {other : Entry} :
    (catalog.mapVersions rewrite versions).Has other ↔
      ∃ entry, catalog.Has entry ∧ entry.mapVersion rewrite = other := by
  apply Iff.intro
  · intro has
    cases has with
    | library hget =>
        obtain ⟨entry, hentry, rfl⟩ := NameMap.get?_mapValues_eq_some_iff.mp hget
        exact ⟨.library _ entry, .library hentry, rfl⟩
    | member hbundle hat => exact ⟨.member _ _ _, .member hbundle hat, rfl⟩
    | plugin hget =>
        obtain ⟨entry, hentry, rfl⟩ := NameMap.get?_mapValues_eq_some_iff.mp hget
        exact ⟨.plugin _ entry, .plugin hentry, rfl⟩
  · rintro ⟨entry, has, rfl⟩
    cases has with
    | library hget => exact .library (NameMap.get?_mapValues_eq_some_iff.mpr ⟨_, hget, rfl⟩)
    | member hbundle hat => exact .member hbundle hat
    | plugin hget => exact .plugin (NameMap.get?_mapValues_eq_some_iff.mpr ⟨_, hget, rfl⟩)

section Rewritten

variable {catalog : Catalog} {rewrite : VersionSpec → VersionSpec} {versions : NameMap String}
  {change : String → String}
  (h : ∀ key version?, catalog.Gives version? →
    VersionSpec.resolve versions key (version?.map rewrite) =
      (VersionSpec.resolve catalog.versions key version?).mapError (CatalogError.rename change))

include h

theorem resolve_library_mapVersion {key : String} {entry : LibraryEntry}
    (hentry : catalog.libraries.get? key = some entry) :
    (entry.mapVersion rewrite).resolve versions key =
      (entry.resolve catalog.versions key).mapError (CatalogError.rename change) :=
  LibraryEntry.resolve_mapVersion (h key _ (.library hentry))

theorem resolve_plugin_mapVersion {key : String} {entry : PluginEntry}
    (hentry : catalog.plugins.get? key = some entry) :
    (entry.mapVersion rewrite).resolve versions key =
      (entry.resolve catalog.versions key).mapError (CatalogError.rename change) :=
  PluginEntry.resolve_mapVersion (h key _ (.plugin hentry))

/-- A rewritten entry has the fault of the entry. -/
theorem fault?_mapVersions {entry : Entry} (has : catalog.Has entry) :
    (catalog.mapVersions rewrite versions).fault? (entry.mapVersion rewrite) =
      (catalog.fault? entry).map (CatalogError.rename change) := by
  cases has with
  | @library key entry hentry =>
      show error? ((entry.mapVersion rewrite).resolve versions key) = _
      rw [resolve_library_mapVersion h hentry, error?_mapError]
      rfl
  | @member bundle members position name hbundle hat =>
      show (if (catalog.libraries.mapValues _).contains name then none else _) = _
      rw [NameMap.contains_mapValues, fault?]
      split <;> rfl
  | @plugin key entry hentry =>
      show error? ((entry.mapVersion rewrite).resolve versions key) = _
      rw [resolve_plugin_mapVersion h hentry, error?_mapError]
      rfl

/-- The first faulty entry is the same one, rewritten. -/
theorem FirstFaulty.mapVersions {entry : Entry} {error : CatalogError}
    (first : catalog.FirstFaulty entry error) :
    (catalog.mapVersions rewrite versions).FirstFaulty (entry.mapVersion rewrite)
      (error.rename change) := by
  refine ⟨has_mapVersions_iff.mpr ⟨entry, first.has, rfl⟩, ?_, ?_⟩
  · rw [← fault?_eq_some_iff, fault?_mapVersions h first.has, fault?_eq_some_iff.mpr first.faulty]
    rfl
  · intro other hother hprecedes
    obtain ⟨earlier, has, rfl⟩ := has_mapVersions_iff.mp hother
    rw [Entry.precedes_mapVersion_iff] at hprecedes
    rw [← fault?_eq_none_iff, fault?_mapVersions h has, Option.map_eq_none_iff,
      fault?_eq_none_iff]
    exact first.earlier earlier has hprecedes

/-- The rewritten catalog is resolved to the same. -/
theorem ResolvesTo.mapVersions {resolved : ResolvedCatalog}
    (hresolves : catalog.ResolvesTo resolved) :
    (catalog.mapVersions rewrite versions).ResolvesTo resolved where
  libraries := by
    apply hresolves.libraries.mapValues
    intro key entry library hentry hdenotes
    rw [← LibraryEntry.resolve_eq_ok_iff] at hdenotes ⊢
    exact (resolve_library_mapVersion h hentry).trans (by rw [hdenotes]; rfl)
  members := by
    intro bundle members hbundle member hmem
    rw [Catalog.mapVersions, NameMap.get?_mapValues, Option.isSome_map]
    exact hresolves.members bundle members hbundle member hmem
  bundles := hresolves.bundles
  plugins := by
    apply hresolves.plugins.mapValues
    intro key entry plugin hentry hdenotes
    rw [← PluginEntry.resolve_eq_ok_iff] at hdenotes ⊢
    exact (resolve_plugin_mapVersion h hentry).trans (by rw [hdenotes]; rfl)

/-- Rewriting versions that come to the same does not change what resolution gives, except
for the name of a version in an error. -/
theorem resolve_mapVersions :
    (catalog.mapVersions rewrite versions).resolve =
      catalog.resolve.mapError (CatalogError.rename change) := by
  cases hresolve : catalog.resolve with
  | error error =>
      obtain ⟨entry, first⟩ := resolve_eq_error_iff.mp hresolve
      exact resolve_eq_error_iff.mpr ⟨_, first.mapVersions h⟩
  | ok resolved =>
      exact resolve_eq_ok_iff.mpr ((resolve_eq_ok_iff.mp hresolve).mapVersions h)

end Rewritten

/-! ## Giving versions in place of references -/

variable {catalog : Catalog}

/-- In a catalog that can be resolved every reference names a version. -/
theorem WellFormed.isSome_get? (wellFormed : catalog.WellFormed) {name : String}
    (hgives : catalog.Gives (some (.reference name))) : (catalog.versions.get? name).isSome := by
  generalize hversion : some (VersionSpec.reference name) = version? at hgives
  cases hgives with
  | @library key entry hentry =>
      cases entry with
      | joined text => cases hversion
      | module text version? =>
          rw [LibraryEntry.version?] at hversion
          subst hversion
          exact wellFormed.moduleVersion _ _ _ hentry
      | split group artifact version? =>
          rw [LibraryEntry.version?] at hversion
          subst hversion
          exact wellFormed.splitVersion _ _ _ _ hentry
  | @plugin key entry hentry =>
      cases entry with
      | joined text => cases hversion
      | detailed id version? =>
          rw [PluginEntry.version?] at hversion
          subst hversion
          exact wellFormed.pluginVersion _ _ _ hentry

/-- What a version comes to does not depend on whether it is given in place of a reference. -/
theorem resolve_inline (wellFormed : catalog.WellFormed) (versions : NameMap String) (key : String)
    {version? : Option VersionSpec} (hgives : catalog.Gives version?) :
    VersionSpec.resolve versions key (version?.map (.inline catalog.versions)) =
      (VersionSpec.resolve catalog.versions key version?).mapError (CatalogError.rename id) := by
  match version?, hgives with
  | none, _ => rfl
  | some (.literal version), _ => rfl
  | some (.reference name), hgives =>
      obtain ⟨version, hget⟩ := Option.isSome_iff_exists.mp (wellFormed.isSome_get? hgives)
      simp only [Option.map_some, VersionSpec.inline, VersionSpec.resolve, hget]
      rfl

/-! ## Renaming versions -/

/-- What a version comes to does not depend on the name of the version, if names in use
stay apart. -/
theorem resolve_rename {change : String → String}
    (hinj : ∀ a b, catalog.UsesName a → catalog.UsesName b → change a = change b → a = b)
    (key : String) {version? : Option VersionSpec} (hgives : catalog.Gives version?) :
    VersionSpec.resolve (catalog.versions.mapNames change) key (version?.map (.rename change)) =
      (VersionSpec.resolve catalog.versions key version?).mapError
        (CatalogError.rename change) := by
  match version?, hgives with
  | none, _ => rfl
  | some (.literal version), _ => rfl
  | some (.reference name), hgives =>
      have hused : ∀ a ∈ catalog.versions.names, catalog.UsesName a := by
        intro a hmem
        obtain ⟨version, hget⟩ := NameMap.mem_names_iff.mp hmem
        exact .version hget
      have hget : (catalog.versions.mapNames change).get? (change name) =
          catalog.versions.get? name := by
        apply NameMap.get?_mapNames
        · intro a ha b hb
          exact hinj a b (hused a ha) (hused b hb)
        · intro a ha
          exact hinj a name (hused a ha) (.reference hgives)
      simp only [Option.map_some, VersionSpec.rename, VersionSpec.resolve, hget]
      cases catalog.versions.get? name <;> rfl

/-- A catalog that can be resolved is resolved to the same with its versions in place of the
references to them, whatever its table of versions is then. To rename versions, such that
names in use stay apart, changes nothing about resolution but the name in an error, and the
entry at fault is the same one. -/
theorem references_are_transparent (catalog : Catalog) :
    (∀ resolved, catalog.resolve = .ok resolved →
      ∀ versions, (catalog.inline versions).resolve = .ok resolved) ∧
    ∀ change : String → String,
      (∀ a b, catalog.UsesName a → catalog.UsesName b → change a = change b → a = b) →
        (catalog.rename change).resolve =
          catalog.resolve.mapError (CatalogError.rename change) ∧
        ∀ entry error, catalog.FirstFaulty entry error →
          (catalog.rename change).FirstFaulty (entry.mapVersion (.rename change))
            (error.rename change) := by
  apply And.intro
  · intro resolved hresolve versions
    have wellFormed : catalog.WellFormed := exists_resolve_eq_ok_iff.mp ⟨resolved, hresolve⟩
    have hsame : (catalog.inline versions).resolve =
        catalog.resolve.mapError (CatalogError.rename id) :=
      resolve_mapVersions fun key _ => resolve_inline wellFormed versions key
    rw [hsame, hresolve]
    rfl
  · intro change hinj
    apply And.intro
    · exact resolve_mapVersions fun key _ => resolve_rename hinj key
    · intro entry error first
      exact first.mapVersions fun key _ => resolve_rename hinj key

/-- A catalog with a reference to a version that it does not have. -/
def dangling : Catalog where
  versions := .ofList [("Kotlin", "2.0.0")]
  libraries := .ofList [("stdlib", .module "lang:stdlib" (some (.reference "kotlin")))]
  bundles := .empty
  plugins := .empty

theorem mixed_and_dangling_transparent :
    (mixed.inline .empty).resolve = .ok mixedResolved ∧
    (mixed.rename ("v-" ++ ·)).resolve = .ok mixedResolved ∧
    dangling.resolve = .error (.unknownVersion "stdlib" "kotlin") ∧
    (dangling.rename ("v-" ++ ·)).resolve = .error (.unknownVersion "stdlib" "v-kotlin") ∧
    (dangling.rename ("v-" ++ ·)).FirstFaulty
      (.library "stdlib" (.module "lang:stdlib" (some (.reference "v-kotlin"))))
      (.unknownVersion "stdlib" "v-kotlin") := by
  have hmixed : mixed.resolve = .ok mixedResolved := rfl
  have hdangling : dangling.resolve = .error (.unknownVersion "stdlib" "kotlin") := rfl
  have hinj : ∀ a b : String, "v-" ++ a = "v-" ++ b → a = b :=
    fun _ _ => (String.append_right_inj "v-").mp
  have first : dangling.FirstFaulty
      (.library "stdlib" (.module "lang:stdlib" (some (.reference "kotlin"))))
      (.unknownVersion "stdlib" "kotlin") := by
    refine ⟨.library rfl, .unknownModuleVersion rfl rfl, ?_⟩
    intro other has hprecedes
    cases has with
    | library hget =>
        have hmem := NameMap.get?_eq_some_iff.mp hget
        cases List.mem_singleton.mp hmem
        exact absurd hprecedes (List.lt_irrefl _)
    | member => exact hprecedes.elim
    | plugin => exact hprecedes.elim
  obtain ⟨hinline, -⟩ := references_are_transparent mixed
  obtain ⟨-, hrenamed⟩ := references_are_transparent mixed
  obtain ⟨-, hstill⟩ := references_are_transparent dangling
  obtain ⟨herror, hfirst⟩ := hstill ("v-" ++ ·) fun a b _ _ => hinj a b
  refine ⟨hinline _ hmixed _, ?_, hdangling, ?_, hfirst _ _ first⟩
  · rw [(hrenamed ("v-" ++ ·) fun a b _ _ => hinj a b).1, hmixed]
    rfl
  · rw [herror, hdangling]
    rfl

end Catalog

end BuildSettings
