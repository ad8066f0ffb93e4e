/-
# Catalogs with more entries

A catalog that can be resolved is given more entries in any of its sections, while every
entry that it has keeps its value. New entries may come between old ones in the order in
which a catalog is resolved, so resolution may end earlier than before.

An entry only asks for names to be there, however: for the version that it refers to, or
for the library that is a member of a bundle. What was there is still there and means the
same, so an old entry is resolved to what it was resolved to before, and if an entry is
reported, it is a new one.
-/

import BuildSettings.Proofs.Catalog.Completeness

namespace BuildSettings

/-! ## Versions that mean the same -/

section

variable {versions larger : NameMap String} {key : String}

/-- A version that means something means the same when there are more versions. -/
theorem VersionSpec.Means.mono {version? : Option VersionSpec} {meant? : Option String}
    (hext : larger.Extends versions) (h : VersionSpec.Means versions version? meant?) :
    VersionSpec.Means larger version? meant? := by
  cases h with
  | absent => exact .absent
  | literal => exact .literal
  | reference hget => exact .reference (hext _ _ hget)

theorem LibraryEntry.Denotes.mono {entry : LibraryEntry} {library : Library}
    (hext : larger.Extends versions) (h : entry.Denotes versions key library) :
    entry.Denotes larger key library := by
  obtain ⟨version?, hwrites, hmeans⟩ := h.written
  exact ⟨h.key_eq, version?, hwrites, hmeans.mono hext⟩

theorem PluginEntry.Denotes.mono {entry : PluginEntry} {plugin : Plugin}
    (hext : larger.Extends versions) (h : entry.Denotes versions key plugin) :
    entry.Denotes larger key plugin := by
  obtain ⟨version?, hwrites, hmeans⟩ := h.written
  exact ⟨h.key_eq, version?, hwrites, hmeans.mono hext⟩

/-- Only one library stands for an entry. -/
theorem LibraryEntry.Denotes.unique {entry : LibraryEntry} {library other : Library}
    (h : entry.Denotes versions key library) (h' : entry.Denotes versions key other) :
    library = other := by
  have hresolve := LibraryEntry.resolve_eq_ok_iff.mpr h
  rw [LibraryEntry.resolve_eq_ok_iff.mpr h'] at hresolve
  exact (Except.ok.inj hresolve).symm

/-- Only one plugin stands for an entry. -/
theorem PluginEntry.Denotes.unique {entry : PluginEntry} {plugin other : Plugin}
    (h : entry.Denotes versions key plugin) (h' : entry.Denotes versions key other) :
    plugin = other := by
  have hresolve := PluginEntry.resolve_eq_ok_iff.mpr h
  rw [PluginEntry.resolve_eq_ok_iff.mpr h'] at hresolve
  exact (Except.ok.inj hresolve).symm

end

/-- A resolved catalog holds all that another one holds, unchanged and in the same order. -/
structure ResolvedCatalog.Includes (larger resolved : ResolvedCatalog) : Prop where
  libraries : resolved.libraries.Sublist larger.libraries
  bundles : resolved.bundles.toList.Sublist larger.bundles.toList
  plugins : resolved.plugins.Sublist larger.plugins

/-- The entry that an error is reported for, by its name in its section. -/
def CatalogError.entryName : CatalogError → String
  | .malformedLibrary key _ => key
  | .malformedModule key _ => key
  | .unknownVersion key _ => key
  | .unknownLibrary bundle _ => bundle

namespace Catalog

/-- The name under which an entry stands in its section; a member stands in its bundle. -/
def Entry.name : Entry → String
  | .library key _ => key
  | .member bundle _ _ => bundle
  | .plugin key _ => key

/-- A catalog has nothing under the name of an entry in the section of this entry. -/
def Lacks (catalog : Catalog) : Entry → Prop
  | .library key _ => catalog.libraries.get? key = none
  | .member bundle _ _ => catalog.bundles.get? bundle = none
  | .plugin key _ => catalog.plugins.get? key = none

/-- A catalog holds every entry of another one in each of its sections, and perhaps others. -/
structure Extends (larger catalog : Catalog) : Prop where
  versions : larger.versions.Extends catalog.versions
  libraries : larger.libraries.Extends catalog.libraries
  bundles : larger.bundles.Extends catalog.bundles
  plugins : larger.plugins.Extends catalog.plugins

variable {catalog larger : Catalog} {resolved result : ResolvedCatalog} {entry : Entry}
  {error : CatalogError}

/-- An error is reported under the name of the entry that is at fault. -/
theorem Faulty.entryName_eq (faulty : catalog.Faulty entry error) :
    error.entryName = entry.name := by
  cases faulty <;> rfl

namespace Extends

variable (hext : larger.Extends catalog)

include hext

/-! ## What is resolved -/

/-- Old entries are resolved to what they were resolved to before. -/
theorem includes (h : catalog.ResolvesTo resolved) (h' : larger.ResolvesTo result) :
    result.Includes resolved := by
  have libraries : catalog.libraries.Lists
      (fun key entry library => entry.Denotes larger.versions key library)
      resolved.libraries :=
    h.libraries.imp fun _ _ hdenotes => hdenotes.mono hext.versions
  have plugins : catalog.plugins.Lists
      (fun key entry plugin => entry.Denotes larger.versions key plugin) resolved.plugins :=
    h.plugins.imp fun _ _ hdenotes => hdenotes.mono hext.versions
  constructor
  · exact libraries.sublist hext.libraries h'.libraries fun _ _ _ _ => LibraryEntry.Denotes.unique
  · rw [h.bundles, h'.bundles]
    exact hext.bundles.sublist_toList
  · exact plugins.sublist hext.plugins h'.plugins fun _ _ _ _ => PluginEntry.Denotes.unique

/-! ## What is reported -/

/-- An entry that does not stand under a new name is an old one. -/
theorem has_of_not_lacks (has : larger.Has entry) (hnot : ¬ catalog.Lacks entry) :
    catalog.Has entry := by
  cases has with
  | library hget => exact .library (hext.libraries.get?_eq_some hget hnot)
  | member hget hat => exact .member (hext.bundles.get?_eq_some hget hnot) hat
  | plugin hget => exact .plugin (hext.plugins.get?_eq_some hget hnot)

/-- Only new entries are at fault when a catalog without faults is extended. -/
theorem lacks_of_faulty (h : catalog.WellFormed) (has : larger.Has entry)
    (faulty : larger.Faulty entry error) : catalog.Lacks entry := by
  by_contra hnot
  have hold : catalog.Has entry := hext.has_of_not_lacks has hnot
  -- A name that the larger catalog lacks is one that the smaller catalog lacks as well.
  have hfaulty : catalog.Faulty entry error := by
    apply faulty.transfer
    · intro name hnone
      exact hext.versions.get?_eq_none hnone
    · intro bundle position member _ hnone
      exact hext.libraries.get?_eq_none hnone
  exact wellFormed_iff.mp h entry hold error hfaulty

end Extends

/-- To extend a catalog that can be resolved is conservative. If the larger catalog can be
resolved as well, then all libraries, bundles and plugins of the smaller one are among what
it is resolved to, unchanged and in the same order. Otherwise the entry that is reported
stands under a name that the smaller catalog does not have in this section. -/
theorem extension_is_conservative (h : catalog.resolve = .ok resolved)
    (hext : larger.Extends catalog) :
    (∀ result, larger.resolve = .ok result → result.Includes resolved) ∧
      ∀ error, larger.resolve = .error error →
        ∃ entry, larger.FirstFaulty entry error ∧ error.entryName = entry.name ∧
          catalog.Lacks entry := by
  constructor
  · intro result hresult
    exact hext.includes (resolve_eq_ok_iff.mp h) (resolve_eq_ok_iff.mp hresult)
  · intro error herror
    have wellFormed : catalog.WellFormed := exists_resolve_eq_ok_iff.mp ⟨resolved, h⟩
    obtain ⟨entry, first⟩ := resolve_eq_error_iff.mp herror
    exact ⟨entry, first, first.faulty.entryName_eq,
      hext.lacks_of_faulty wellFormed first.has first.faulty⟩

/-- More entries for `mixed`, one in each section. The new library stands between old ones,
under a name that is that of a plugin so far. -/
def mixedExtended : Catalog where
  versions := mixed.versions.insert "ktor" "3.0"
  libraries := mixed.libraries.insert "jvm" (.module "io:jvm" (some (.reference "ktor")))
  bundles := mixed.bundles.insert "all" ["jvm", "gson"]
  plugins := mixed.plugins.insert "lint" (.joined "lint")

/-- What the larger catalog is resolved to. -/
def mixedExtendedResolved : ResolvedCatalog where
  libraries := [⟨"bom", "junit", "bom", some "kotlin"⟩, ⟨"gson", "json", "gson", some "2.11.0"⟩,
    ⟨"jupiter", "junit", "jupiter", none⟩, ⟨"jvm", "io", "jvm", some "3.0"⟩,
    ⟨"stdlib", "lang", "stdlib", some "2.0.0"⟩]
  bundles := .ofList [("tests", ["jupiter", "bom"]), ("none", []), ("all", ["jvm", "gson"])]
  plugins := [⟨"jvm", "lang.jvm", none⟩, ⟨"lint", "lint", none⟩,
    ⟨"shadow", "shadow", some "8:3"⟩]

theorem mixed_extended :
    (mixed.resolve = .ok mixedResolved ∧ mixedExtended.Extends mixed ∧
      mixedExtended.resolve = .ok mixedExtendedResolved ∧
        mixedExtendedResolved.Includes mixedResolved) ∧
    Extends { mixedExtended with versions := mixed.versions } mixed ∧
      Catalog.resolve { mixedExtended with versions := mixed.versions } =
        .error (.unknownVersion "jvm" "ktor") ∧
      ∃ entry, FirstFaulty { mixedExtended with versions := mixed.versions } entry
        (.unknownVersion "jvm" "ktor") ∧ "jvm" = entry.name ∧ mixed.Lacks entry := by
  have hmixed : mixed.resolve = .ok mixedResolved := rfl
  have hlarger : mixedExtended.Extends mixed :=
    ⟨by decide, by decide, by decide, by decide⟩
  have hresolve : mixedExtended.resolve = .ok mixedExtendedResolved := rfl
  have hfewer : Extends { mixedExtended with versions := mixed.versions } mixed :=
    ⟨by decide, hlarger.libraries, hlarger.bundles, hlarger.plugins⟩
  have herror : Catalog.resolve { mixedExtended with versions := mixed.versions } =
      .error (.unknownVersion "jvm" "ktor") := rfl
  have hincludes := (extension_is_conservative hmixed hlarger).1 _ hresolve
  have hnew := (extension_is_conservative hmixed hfewer).2 _ herror
  exact ⟨⟨hmixed, hlarger, hresolve, hincludes⟩, hfewer, herror, hnew⟩

end Catalog

end BuildSettings
