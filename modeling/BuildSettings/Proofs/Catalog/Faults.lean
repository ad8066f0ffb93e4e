/-
# The first faulty entry of a catalog

A catalog can be resolved when every text has the right number of parts, every
reference names a version and every member of a bundle is a library. These
conditions concern one entry at a time, and the entries have an order: libraries
by the bytes of their keys, then the members of the bundles, by the bytes of the
name of the bundle and then by position, then plugins by the bytes of their keys.

Resolution reports the first entry in this order that breaks a condition. Since
a condition on an entry looks at the versions and, for members, at the keys of
the libraries, which all come earlier, nothing that comes later in the order has
any part in what is reported.
-/

import Mathlib.Data.List.Basic
import BuildSettings.Catalog.Resolve
import BuildSettings.Proofs.FirstFault
import BuildSettings.Proofs.NameMap
import BuildSettings.Proofs.Text.Pieces

namespace BuildSettings

open Text (utf8)

namespace Catalog

/-! ## Entries and their order -/

/-- What resolution looks at, one thing at a time. -/
inductive Entry
  | library (key : String) (entry : LibraryEntry)
  | member (bundle : String) (position : Nat) (member : String)
  | plugin (key : String) (entry : PluginEntry)

/-- One entry is looked at before another one. -/
def Entry.Precedes : Entry → Entry → Prop
  | .library a _, .library b _ => utf8 a < utf8 b
  | .library _ _, _ => True
  | .member _ _ _, .library _ _ => False
  | .member a i _, .member b j _ => utf8 a < utf8 b ∨ a = b ∧ i < j
  | .member _ _ _, .plugin _ _ => True
  | .plugin a _, .plugin b _ => utf8 a < utf8 b
  | .plugin _ _, _ => False

/-- A catalog holds an entry. -/
inductive Has (catalog : Catalog) : Entry → Prop
  | library {key entry} :
      catalog.libraries.get? key = some entry → Has catalog (.library key entry)
  | member {bundle members position member} :
      catalog.bundles.get? bundle = some members → members[position]? = some member →
        Has catalog (.member bundle position member)
  | plugin {key entry} :
      catalog.plugins.get? key = some entry → Has catalog (.plugin key entry)

theorem Entry.Precedes.asymm : ∀ a b : Entry, a.Precedes b → ¬ b.Precedes a := by
  intro a b hab hba
  cases a with
  | library key entry =>
      cases b with
      | library other _ => exact List.lt_asymm hab hba
      | member => exact hba
      | plugin => exact hba
  | member bundle i member =>
      cases b with
      | library => exact hab
      | member other j _ =>
          rcases hab with hab | ⟨rfl, hij⟩
          · rcases hba with hba | ⟨rfl, -⟩
            · exact List.lt_asymm hab hba
            · exact List.lt_irrefl _ hab
          · rcases hba with hba | ⟨-, hji⟩
            · exact List.lt_irrefl _ hba
            · exact Nat.lt_asymm hij hji
      | plugin => exact hba
  | plugin key entry =>
      cases b with
      | library => exact hab
      | member => exact hab
      | plugin other _ => exact List.lt_asymm hab hba

/-- The members of a bundle as entries. -/
def bundleEntries (bundle : String × List String) : List Entry :=
  bundle.2.mapIdx fun position member => .member bundle.1 position member

/-- The entries of a catalog in the order in which they are looked at. -/
def entries (catalog : Catalog) : List Entry :=
  catalog.libraries.toList.map (fun library => .library library.1 library.2)
    ++ catalog.bundles.toList.flatMap bundleEntries
    ++ catalog.plugins.toList.map fun plugin => .plugin plugin.1 plugin.2

theorem mem_entries_iff {catalog : Catalog} {entry : Entry} :
    entry ∈ catalog.entries ↔ catalog.Has entry := by
  simp only [entries, List.mem_append, List.mem_map, List.mem_flatMap, bundleEntries,
    List.mem_mapIdx, or_assoc]
  apply Iff.intro
  · intro h
    rcases h with ⟨⟨key, library⟩, hmem, rfl⟩ | ⟨⟨bundle, members⟩, hmem, i, hi, rfl⟩ |
      ⟨⟨key, plugin⟩, hmem, rfl⟩
    · exact .library (NameMap.get?_eq_some_iff.mpr hmem)
    · exact .member (NameMap.get?_eq_some_iff.mpr hmem) (List.getElem?_eq_getElem hi)
    · exact .plugin (NameMap.get?_eq_some_iff.mpr hmem)
  · intro h
    cases h with
    | library h => exact .inl ⟨_, NameMap.get?_eq_some_iff.mp h, rfl⟩
    | member h hat =>
        obtain ⟨hi, rfl⟩ := List.getElem?_eq_some_iff.mp hat
        exact .inr (.inl ⟨_, NameMap.get?_eq_some_iff.mp h, _, hi, rfl⟩)
    | plugin h => exact .inr (.inr ⟨_, NameMap.get?_eq_some_iff.mp h, rfl⟩)

/-- The members of a bundle stand in the order of their positions. -/
theorem pairwise_bundleEntries (bundle : String × List String) :
    (bundleEntries bundle).Pairwise Entry.Precedes := by
  rw [bundleEntries, List.pairwise_iff_getElem]
  intro i j hi hj hij
  rw [List.getElem_mapIdx, List.getElem_mapIdx]
  exact .inr ⟨rfl, hij⟩

/-- The entries stand in the order in which they are said to be looked at. -/
theorem pairwise_entries (catalog : Catalog) : catalog.entries.Pairwise Entry.Precedes := by
  have libraries : (catalog.libraries.toList.map fun library =>
      Entry.library library.1 library.2).Pairwise Entry.Precedes :=
    List.pairwise_map.mpr catalog.libraries.pairwise_utf8_lt
  have members : (catalog.bundles.toList.flatMap bundleEntries).Pairwise Entry.Precedes := by
    rw [List.pairwise_flatMap]
    refine ⟨fun bundle _ => pairwise_bundleEntries bundle, ?_⟩
    refine catalog.bundles.pairwise_utf8_lt.imp ?_
    intro a b hab x hx y hy
    obtain ⟨i, hi, rfl⟩ := List.mem_mapIdx.mp hx
    obtain ⟨j, hj, rfl⟩ := List.mem_mapIdx.mp hy
    exact .inl hab
  have plugins : (catalog.plugins.toList.map fun plugin =>
      Entry.plugin plugin.1 plugin.2).Pairwise Entry.Precedes :=
    List.pairwise_map.mpr catalog.plugins.pairwise_utf8_lt
  rw [entries, List.pairwise_append, List.pairwise_append]
  refine ⟨⟨libraries, members, ?_⟩, plugins, ?_⟩
  · intro x hx y hy
    obtain ⟨library, -, rfl⟩ := List.mem_map.mp hx
    obtain ⟨bundle, -, hy⟩ := List.mem_flatMap.mp hy
    obtain ⟨j, hj, rfl⟩ := List.mem_mapIdx.mp hy
    trivial
  · intro x hx y hy
    obtain ⟨plugin, -, rfl⟩ := List.mem_map.mp hy
    rcases List.mem_append.mp hx with hx | hx
    · obtain ⟨library, -, rfl⟩ := List.mem_map.mp hx
      trivial
    · obtain ⟨bundle, -, hx⟩ := List.mem_flatMap.mp hx
      obtain ⟨i, hi, rfl⟩ := List.mem_mapIdx.mp hx
      trivial

/-! ## Faults of entries -/

/-- The number of parts of a text: one more than it has colons. -/
def partCount (text : String) : Nat :=
  text.toList.count ':' + 1

/-- An entry breaks a condition, and this is what is reported for it. A module
whose text is malformed is not looked at further. -/
inductive Faulty (catalog : Catalog) : Entry → CatalogError → Prop
  | malformedLibrary {key text} :
      partCount text ≠ 2 → partCount text ≠ 3 →
        Faulty catalog (.library key (.joined text)) (.malformedLibrary key text)
  | malformedModule {key text version?} :
      partCount text ≠ 2 →
        Faulty catalog (.library key (.module text version?)) (.malformedModule key text)
  | unknownModuleVersion {key text name} :
      partCount text = 2 → catalog.versions.get? name = none →
        Faulty catalog (.library key (.module text (some (.reference name))))
          (.unknownVersion key name)
  | unknownSplitVersion {key group artifact name} :
      catalog.versions.get? name = none →
        Faulty catalog (.library key (.split group artifact (some (.reference name))))
          (.unknownVersion key name)
  | unknownMember {bundle position member} :
      catalog.libraries.get? member = none →
        Faulty catalog (.member bundle position member) (.unknownLibrary bundle member)
  | unknownPluginVersion {key id name} :
      catalog.versions.get? name = none →
        Faulty catalog (.plugin key (.detailed id (some (.reference name))))
          (.unknownVersion key name)

/-- What resolution finds wrong with an entry. -/
def fault? (catalog : Catalog) : Entry → Option CatalogError
  | .library key entry => error? (entry.resolve catalog.versions key)
  | .member bundle _ member =>
    if catalog.libraries.contains member then none else some (.unknownLibrary bundle member)
  | .plugin key entry => error? (entry.resolve catalog.versions key)

theorem length_colonParts (text : String) : (colonParts text).length = partCount text := by
  rw [colonParts, List.length_map, Text.length_splitOn, partCount]

theorem partCount_eq_two_iff {text : String} :
    partCount text = 2 ↔ ∃ group artifact, colonParts text = [group, artifact] := by
  rw [← length_colonParts]
  exact List.length_eq_two

theorem partCount_eq_three_iff {text : String} :
    partCount text = 3 ↔
      ∃ group artifact version, colonParts text = [group, artifact, version] := by
  rw [← length_colonParts]
  exact List.length_eq_three

/-- A version cannot be resolved when it refers to a name that is not there. -/
theorem error?_resolve_version {versions : NameMap String} {key : String}
    {version? : Option VersionSpec} {error : CatalogError} :
    error? (VersionSpec.resolve versions key version?) = some error ↔
      ∃ name, version? = some (.reference name) ∧ versions.get? name = none ∧
        error = .unknownVersion key name := by
  match version? with
  | none => simp [VersionSpec.resolve]
  | some (.literal version) => simp [VersionSpec.resolve]
  | some (.reference name) =>
      rw [VersionSpec.resolve]
      cases hget : versions.get? name with
      | none => simp [hget, eq_comm]
      | some version => simp [hget]

/-- What resolution finds wrong with a library is what is wrong with it. -/
theorem error?_resolve_library {catalog : Catalog} {key : String} {entry : LibraryEntry}
    {error : CatalogError} :
    error? (entry.resolve catalog.versions key) = some error ↔
      catalog.Faulty (.library key entry) error := by
  cases entry with
  | joined text =>
      rw [LibraryEntry.resolve, Library.ofCoordinates]
      split
      · rename_i group artifact hparts
        have htwo : partCount text = 2 := partCount_eq_two_iff.mpr ⟨group, artifact, hparts⟩
        apply Iff.intro
        · intro h
          cases h
        · intro h
          cases h with
          | malformedLibrary hnot _ => exact absurd htwo hnot
      · rename_i group artifact version hparts
        have hthree : partCount text = 3 :=
          partCount_eq_three_iff.mpr ⟨group, artifact, version, hparts⟩
        apply Iff.intro
        · intro h
          cases h
        · intro h
          cases h with
          | malformedLibrary _ hnot => exact absurd hthree hnot
      · rename_i hnotTwo hnotThree
        rw [error?_error, Option.some_inj]
        apply Iff.intro
        · intro heq
          subst heq
          apply Faulty.malformedLibrary
          · intro htwo
            obtain ⟨group, artifact, hparts⟩ := partCount_eq_two_iff.mp htwo
            exact hnotTwo group artifact hparts
          · intro hthree
            obtain ⟨group, artifact, version, hparts⟩ := partCount_eq_three_iff.mp hthree
            exact hnotThree group artifact version hparts
        · intro h
          cases h with
          | malformedLibrary _ _ => rfl
  | module text version? =>
      rw [LibraryEntry.resolve]
      split
      · rename_i group artifact hparts
        have htwo : partCount text = 2 := partCount_eq_two_iff.mpr ⟨group, artifact, hparts⟩
        rw [error?_bind_ok, error?_resolve_version]
        apply Iff.intro
        · intro h
          rcases h with ⟨name, rfl, hget, rfl⟩
          exact .unknownModuleVersion htwo hget
        · intro h
          cases h with
          | malformedModule hnot => exact absurd htwo hnot
          | unknownModuleVersion _ hget => exact ⟨_, rfl, hget, rfl⟩
      · rename_i hnotTwo
        -- Nothing is asked of the version of a module whose text is malformed.
        have hcount : partCount text ≠ 2 := by
          intro htwo
          obtain ⟨group, artifact, hparts⟩ := partCount_eq_two_iff.mp htwo
          exact hnotTwo group artifact hparts
        rw [error?_error, Option.some_inj]
        apply Iff.intro
        · intro heq
          subst heq
          exact .malformedModule hcount
        · intro h
          cases h with
          | malformedModule _ => rfl
          | unknownModuleVersion htwo _ => exact absurd htwo hcount
  | split group name version? =>
      rw [LibraryEntry.resolve, error?_bind_ok, error?_resolve_version]
      apply Iff.intro
      · intro h
        rcases h with ⟨name, rfl, hget, rfl⟩
        exact .unknownSplitVersion hget
      · intro h
        cases h with
        | unknownSplitVersion hget => exact ⟨_, rfl, hget, rfl⟩

/-- What resolution finds wrong with a plugin is what is wrong with it. -/
theorem error?_resolve_plugin {catalog : Catalog} {key : String} {entry : PluginEntry}
    {error : CatalogError} :
    error? (entry.resolve catalog.versions key) = some error ↔
      catalog.Faulty (.plugin key entry) error := by
  cases entry with
  | joined text =>
      rw [PluginEntry.resolve]
      apply Iff.intro
      · intro h
        cases h
      · intro h
        cases h
  | detailed id version? =>
      rw [PluginEntry.resolve, error?_bind_ok, error?_resolve_version]
      apply Iff.intro
      · intro h
        rcases h with ⟨name, rfl, hget, rfl⟩
        exact .unknownPluginVersion hget
      · intro h
        cases h with
        | unknownPluginVersion hget => exact ⟨_, rfl, hget, rfl⟩

theorem fault?_eq_some_iff {catalog : Catalog} {entry : Entry} {error : CatalogError} :
    catalog.fault? entry = some error ↔ catalog.Faulty entry error := by
  cases entry with
  | library key entry => exact error?_resolve_library
  | plugin key entry => exact error?_resolve_plugin
  | member bundle position member =>
      rw [fault?]
      by_cases hcontains : catalog.libraries.contains member = true
      · rw [if_pos hcontains]
        apply Iff.intro
        · intro h
          cases h
        · intro h
          cases h with
          | unknownMember hget =>
              rw [NameMap.contains_iff, hget] at hcontains
              cases hcontains
      · rw [if_neg hcontains, Option.some_inj]
        apply Iff.intro
        · intro heq
          subst heq
          apply Faulty.unknownMember
          rw [NameMap.contains_iff] at hcontains
          simpa using hcontains
        · intro h
          cases h with
          | unknownMember _ => rfl

theorem fault?_eq_none_iff {catalog : Catalog} {entry : Entry} :
    catalog.fault? entry = none ↔ ∀ error, ¬ catalog.Faulty entry error := by
  rw [Option.eq_none_iff_forall_ne_some]
  exact forall_congr' fun error => not_congr fault?_eq_some_iff

/-! ## Resolution as a search for the first fault -/

/-- A bundle fails at its first faulty member. -/
theorem error?_checkBundle (catalog : Catalog) (bundle : String × List String) :
    error? (catalog.checkBundle bundle.1 bundle.2) =
      (bundleEntries bundle).findSome? catalog.fault? := by
  obtain ⟨bundle, members⟩ := bundle
  -- A member is judged without its position, so that the positions may start anywhere.
  suffices h : ∀ start, error? (catalog.checkBundle bundle members) =
      (members.mapIdx fun position member =>
        Entry.member bundle (start + position) member).findSome? catalog.fault? by
    simpa [bundleEntries] using h 0
  induction members with
  | nil =>
      intro start
      rfl
  | cons member rest ih =>
      intro start
      rw [List.mapIdx_cons, List.findSome?_cons, checkBundle, List.find?_cons, fault?]
      by_cases hcontains : catalog.libraries.contains member = true
      · have hrest := ih (start + 1)
        simp only [Nat.add_assoc, Nat.add_comm 1] at hrest
        rw [if_pos hcontains, hcontains]
        exact hrest
      · rw [if_neg hcontains, Bool.eq_false_iff.mpr hcontains]
        rfl

/-- Resolution fails at the first faulty entry. -/
theorem error?_resolve (catalog : Catalog) :
    error? catalog.resolve = catalog.entries.findSome? catalog.fault? := by
  have libraries : (catalog.libraries.toList.map fun library =>
      Entry.library library.1 library.2).findSome? catalog.fault? =
        catalog.libraries.toList.findSome? fun library =>
          error? (library.2.resolve catalog.versions library.1) := by
    rw [List.findSome?_map]
    rfl
  have bundles : (catalog.bundles.toList.flatMap bundleEntries).findSome? catalog.fault? =
      catalog.bundles.toList.findSome? fun bundle =>
        error? (catalog.checkBundle bundle.1 bundle.2) := by
    rw [findSome?_flatMap]
    simp only [error?_checkBundle]
  have plugins : (catalog.plugins.toList.map fun plugin =>
      Entry.plugin plugin.1 plugin.2).findSome? catalog.fault? =
        catalog.plugins.toList.findSome? fun plugin =>
          error? (plugin.2.resolve catalog.versions plugin.1) := by
    rw [List.findSome?_map]
    rfl
  rw [entries, List.findSome?_append, List.findSome?_append, libraries, bundles, plugins,
    Option.or_assoc, ← error?_mapM, ← error?_forM, ← error?_mapM, resolve]
  apply error?_bind
  intro resolved
  apply error?_bind
  intro _
  exact error?_bind_ok

/-- The conditions on the entries of a catalog, one for each kind of entry that
can break it. -/
structure WellFormed (catalog : Catalog) : Prop where
  joined : ∀ key text, catalog.libraries.get? key = some (.joined text) →
    partCount text = 2 ∨ partCount text = 3
  module : ∀ key text version?, catalog.libraries.get? key = some (.module text version?) →
    partCount text = 2
  moduleVersion : ∀ key text name,
    catalog.libraries.get? key = some (.module text (some (.reference name))) →
      (catalog.versions.get? name).isSome
  splitVersion : ∀ key group artifact name,
    catalog.libraries.get? key = some (.split group artifact (some (.reference name))) →
      (catalog.versions.get? name).isSome
  pluginVersion : ∀ key id name,
    catalog.plugins.get? key = some (.detailed id (some (.reference name))) →
      (catalog.versions.get? name).isSome
  member : ∀ bundle members, catalog.bundles.get? bundle = some members →
    ∀ member ∈ members, (catalog.libraries.get? member).isSome

/-- A catalog is well-formed when it has no faulty entry. -/
theorem wellFormed_iff {catalog : Catalog} :
    catalog.WellFormed ↔ ∀ entry, catalog.Has entry → ∀ error, ¬ catalog.Faulty entry error := by
  apply Iff.intro
  · intro wellFormed entry has error faulty
    cases faulty with
    | malformedLibrary hnotTwo hnotThree =>
        cases has with
        | library hget =>
            rcases wellFormed.joined _ _ hget with htwo | hthree
            · exact hnotTwo htwo
            · exact hnotThree hthree
    | malformedModule hnot =>
        cases has with
        | library hget => exact hnot (wellFormed.module _ _ _ hget)
    | unknownModuleVersion _ hnone =>
        cases has with
        | library hget => simpa [hnone] using wellFormed.moduleVersion _ _ _ hget
    | unknownSplitVersion hnone =>
        cases has with
        | library hget => simpa [hnone] using wellFormed.splitVersion _ _ _ _ hget
    | unknownMember hnone =>
        cases has with
        | member hget hat =>
            simpa [hnone] using wellFormed.member _ _ hget _ (List.mem_of_getElem? hat)
    | unknownPluginVersion hnone =>
        cases has with
        | plugin hget => simpa [hnone] using wellFormed.pluginVersion _ _ _ hget
  · intro sound
    have module : ∀ key text version?,
        catalog.libraries.get? key = some (.module text version?) → partCount text = 2 := by
      intro key text version? hget
      by_cases htwo : partCount text = 2
      · exact htwo
      · exact absurd (.malformedModule htwo) (sound _ (.library hget) _)
    refine ⟨?_, module, ?_, ?_, ?_, ?_⟩
    · intro key text hget
      by_cases htwo : partCount text = 2
      · exact .inl htwo
      · by_cases hthree : partCount text = 3
        · exact .inr hthree
        · exact absurd (.malformedLibrary htwo hthree) (sound _ (.library hget) _)
    · intro key text name hget
      rw [Option.isSome_iff_ne_none]
      intro hnone
      exact sound _ (.library hget) _ (.unknownModuleVersion (module _ _ _ hget) hnone)
    · intro key group artifact name hget
      rw [Option.isSome_iff_ne_none]
      intro hnone
      exact sound _ (.library hget) _ (.unknownSplitVersion hnone)
    · intro key id name hget
      rw [Option.isSome_iff_ne_none]
      intro hnone
      exact sound _ (.plugin hget) _ (.unknownPluginVersion hnone)
    · intro bundle members hget member hmem
      obtain ⟨position, hat⟩ := List.getElem?_of_mem hmem
      rw [Option.isSome_iff_ne_none]
      intro hnone
      exact sound _ (.member hget hat) _ (.unknownMember hnone)

/-- An entry is at fault, and no entry that is looked at before it is. -/
structure FirstFaulty (catalog : Catalog) (entry : Entry) (error : CatalogError) : Prop where
  has : catalog.Has entry
  faulty : catalog.Faulty entry error
  earlier : ∀ other, catalog.Has other → other.Precedes entry →
    ∀ error, ¬ catalog.Faulty other error

/-- Resolution fails with the fault of the first faulty entry and with no other. -/
theorem resolve_eq_error_iff {catalog : Catalog} {error : CatalogError} :
    catalog.resolve = .error error ↔ ∃ entry, catalog.FirstFaulty entry error := by
  rw [← error?_eq_some_iff, error?_resolve,
    findSome?_eq_some_iff_of_pairwise catalog.pairwise_entries Entry.Precedes.asymm]
  apply Iff.intro
  · intro h
    rcases h with ⟨entry, hmem, hfault, hnone⟩
    refine ⟨entry, mem_entries_iff.mp hmem, fault?_eq_some_iff.mp hfault, ?_⟩
    intro other has hprecedes
    exact fault?_eq_none_iff.mp (hnone other (mem_entries_iff.mpr has) hprecedes)
  · intro h
    rcases h with ⟨entry, first⟩
    refine ⟨entry, mem_entries_iff.mpr first.has, fault?_eq_some_iff.mpr first.faulty, ?_⟩
    intro other hmem hprecedes
    exact fault?_eq_none_iff.mpr (first.earlier other (mem_entries_iff.mp hmem) hprecedes)

/-- Resolution succeeds for the well-formed catalogs and for no others. -/
theorem exists_resolve_eq_ok_iff {catalog : Catalog} :
    (∃ resolved, catalog.resolve = .ok resolved) ↔ catalog.WellFormed := by
  rw [← error?_eq_none_iff, error?_resolve, List.findSome?_eq_none_iff, wellFormed_iff]
  apply Iff.intro
  · intro h entry has
    exact fault?_eq_none_iff.mp (h entry (mem_entries_iff.mpr has))
  · intro h entry hmem
    exact fault?_eq_none_iff.mpr (h entry (mem_entries_iff.mp hmem))

/-! ## What comes later -/

/-- Two catalogs hold the same versions, and the same entries as far as the entry
and before it. -/
structure AgreesThrough (catalog other : Catalog) (entry : Entry) : Prop where
  versions : catalog.versions = other.versions
  has : ∀ earlier, earlier = entry ∨ earlier.Precedes entry →
    (catalog.Has earlier ↔ other.Has earlier)

/-- The libraries agree if all of them come before the entry. -/
theorem AgreesThrough.libraries {catalog other : Catalog} {entry : Entry}
    (agrees : catalog.AgreesThrough other entry)
    (hbefore : ∀ key library, (Entry.library key library).Precedes entry) (key : String) :
    catalog.libraries.get? key = other.libraries.get? key := by
  apply Option.ext
  intro library
  have hiff := agrees.has (.library key library) (.inr (hbefore key library))
  apply Iff.intro
  · intro hget
    cases hiff.mp (.library hget) with
    | library h => exact h
  · intro hget
    cases hiff.mpr (.library hget) with
    | library h => exact h

/-- All libraries come before an entry that a member of a bundle comes before. -/
theorem Entry.Precedes.of_member {bundle member : String} {position : Nat} {entry : Entry}
    (h : (Entry.member bundle position member).Precedes entry) (key : String)
    (library : LibraryEntry) : (Entry.library key library).Precedes entry := by
  cases entry with
  | library => exact h.elim
  | member => trivial
  | plugin => trivial

/-- A fault of an entry is a fault in every catalog that lacks the same versions and, for the
member of a bundle, the same library. -/
theorem Faulty.transfer {catalog other : Catalog} {entry : Entry} {error : CatalogError}
    (faulty : catalog.Faulty entry error)
    (hversions : ∀ name, catalog.versions.get? name = none → other.versions.get? name = none)
    (hlibraries : ∀ bundle position member, entry = .member bundle position member →
      catalog.libraries.get? member = none → other.libraries.get? member = none) :
    other.Faulty entry error := by
  cases faulty with
  | malformedLibrary hnotTwo hnotThree => exact .malformedLibrary hnotTwo hnotThree
  | malformedModule hnot => exact .malformedModule hnot
  | unknownModuleVersion htwo hnone => exact .unknownModuleVersion htwo (hversions _ hnone)
  | unknownSplitVersion hnone => exact .unknownSplitVersion (hversions _ hnone)
  | unknownMember hnone => exact .unknownMember (hlibraries _ _ _ rfl hnone)
  | unknownPluginVersion hnone => exact .unknownPluginVersion (hversions _ hnone)

/-- An entry has the same faults in catalogs that agree as far as the entry. -/
theorem AgreesThrough.faulty_iff {catalog other : Catalog} {entry earlier : Entry}
    {error : CatalogError} (agrees : catalog.AgreesThrough other entry)
    (hearlier : earlier = entry ∨ earlier.Precedes entry) :
    catalog.Faulty earlier error ↔ other.Faulty earlier error := by
  have hlibraries : ∀ bundle position member, earlier = .member bundle position member →
      catalog.libraries.get? member = other.libraries.get? member := by
    intro bundle position member heq
    subst heq
    apply agrees.libraries
    rcases hearlier with rfl | hprecedes
    · intro key library
      trivial
    · exact hprecedes.of_member
  apply Iff.intro
  · intro faulty
    apply faulty.transfer
    · intro name hnone
      rwa [← agrees.versions]
    · intro bundle position member heq hnone
      rwa [← hlibraries bundle position member heq]
  · intro faulty
    apply faulty.transfer
    · intro name hnone
      rwa [agrees.versions]
    · intro bundle position member heq hnone
      rwa [hlibraries bundle position member heq]

/-- The first faulty entry is the first in every catalog that agrees as far as this entry. -/
theorem FirstFaulty.of_agreesThrough {catalog other : Catalog} {entry : Entry}
    {error : CatalogError} (first : catalog.FirstFaulty entry error)
    (agrees : catalog.AgreesThrough other entry) : other.FirstFaulty entry error := by
  refine ⟨(agrees.has entry (.inl rfl)).mp first.has,
    (agrees.faulty_iff (.inl rfl)).mp first.faulty, ?_⟩
  intro earlier has hprecedes error faulty
  exact first.earlier earlier ((agrees.has earlier (.inr hprecedes)).mpr has) hprecedes error
    ((agrees.faulty_iff (.inr hprecedes)).mpr faulty)

/-- A catalog is resolved exactly when every text has its number of parts, every
reference names a version and every member of a bundle is a library. Otherwise
the fault of the first faulty entry is reported, and nothing that comes after
this entry has any part in it. -/
theorem resolve_reports_first_faulty (catalog : Catalog) :
    ((∃ resolved, catalog.resolve = .ok resolved) ↔ catalog.WellFormed) ∧
      (∀ error, catalog.resolve = .error error ↔
        ∃ entry, catalog.FirstFaulty entry error) ∧
      ∀ entry error, catalog.FirstFaulty entry error → ∀ other : Catalog,
        catalog.AgreesThrough other entry → other.resolve = .error error := by
  refine ⟨exists_resolve_eq_ok_iff, fun error => resolve_eq_error_iff, ?_⟩
  intro entry error first other agrees
  exact resolve_eq_error_iff.mpr ⟨entry, first.of_agreesThrough agrees⟩

end Catalog

end BuildSettings
