/-
# Which form an entry takes

An entry of a catalog takes the first form that it fits. A library is a text, or a table with
a module, or else a table with a group and a name; a plugin is a text or a table with an
identifier. A table may hold a version, and then it must be one: a text, or a table with
a reference. A version that is none makes the table fit no form, so that it is neither
dropped nor taken for something else, and the catalog cannot be read.

Hence what a catalog is resolved to has a version for each table that holds one, and none for
the others. The keys of a document are all different, so no entry hides another.
-/

import BuildSettings.Catalog.Document
import BuildSettings.Proofs.Catalog.Completeness
import BuildSettings.Proofs.Shape.Fields
import BuildSettings.Proofs.Toml.DistinctKeys

namespace BuildSettings

open Shape (Fields)
open Toml (Value)

/-! ## Forms of entries -/

/-- A value is a version: a text, or a table with a text under `ref`. -/
inductive VersionSpec.WrittenBy : VersionSpec → Value → Prop
  | literal {version : String} : WrittenBy (.literal version) (.string version)
  | reference {fields : List (String × Value)} {name : String} :
      fields.lookup "ref" = some (.string name) → WrittenBy (.reference name) (.table fields)

/-- A table holds no version, or one that is a version. -/
inductive VersionSpec.GivenIn (fields : List (String × Value)) : Option VersionSpec → Prop
  | absent : fields.lookup "version" = none → GivenIn fields none
  | given {value : Value} {version : VersionSpec} : fields.lookup "version" = some value →
      version.WrittenBy value → GivenIn fields (some version)

/-- A table is a library with a module. -/
def LibraryEntry.HasModule (fields : List (String × Value)) (text : String)
    (version? : Option VersionSpec) : Prop :=
  fields.lookup "module" = some (.string text) ∧ VersionSpec.GivenIn fields version?

/-- The library that a value is taken for. -/
inductive LibraryEntry.TakenFrom : LibraryEntry → Value → Prop
  | joined {text : String} : TakenFrom (.joined text) (.string text)
  | module {fields : List (String × Value)} {text : String} {version? : Option VersionSpec} :
      HasModule fields text version? → TakenFrom (.module text version?) (.table fields)
  | split {fields : List (String × Value)} {group name : String}
      {version? : Option VersionSpec} :
      (∀ text version?, ¬ HasModule fields text version?) →
      fields.lookup "group" = some (.string group) → fields.lookup "name" = some (.string name) →
      VersionSpec.GivenIn fields version? →
      TakenFrom (.split group name version?) (.table fields)

/-- The plugin that a value is taken for. -/
inductive PluginEntry.TakenFrom : PluginEntry → Value → Prop
  | joined {text : String} : TakenFrom (.joined text) (.string text)
  | detailed {fields : List (String × Value)} {id : String} {version? : Option VersionSpec} :
      fields.lookup "id" = some (.string id) → VersionSpec.GivenIn fields version? →
      TakenFrom (.detailed id version?) (.table fields)

theorem Shape.textField?_table_eq_some_iff {key text : String}
    {fields : List (String × Value)} :
    Shape.textField? key (.table fields) = some text ↔
      fields.lookup key = some (.string text) := by
  rw [Shape.textField?]
  cases fields.lookup key with
  | none => simp
  | some value => cases value <;> simp

theorem VersionSpec.ofValue?_eq_some_iff {value : Value} {version : VersionSpec} :
    ofValue? value = some version ↔ version.WrittenBy value := by
  cases value with
  | string text =>
      apply Iff.intro
      · rintro ⟨⟩
        exact .literal
      · rintro ⟨⟩
        rfl
  | table fields =>
      simp only [ofValue?, Option.map_eq_some_iff, Shape.textField?_table_eq_some_iff]
      apply Iff.intro
      · rintro ⟨name, hname, rfl⟩
        exact .reference hname
      · intro h
        cases h with
        | reference hname => exact ⟨_, hname, rfl⟩
  | _ => exact iff_of_false nofun nofun

theorem VersionSpec.ofField?_table_eq_some_iff {fields : List (String × Value)}
    {version? : Option VersionSpec} :
    ofField? (.table fields) = some version? ↔ GivenIn fields version? := by
  rw [ofField?]
  cases hvalue : fields.lookup "version" with
  | none =>
      apply Iff.intro
      · rintro ⟨⟩
        exact .absent hvalue
      · intro h
        cases h with
        | absent => rfl
        | given hgiven => rw [hvalue] at hgiven; cases hgiven
  | some value =>
      simp only [Option.map_eq_some_iff, ofValue?_eq_some_iff]
      apply Iff.intro
      · rintro ⟨version, hversion, rfl⟩
        exact .given hvalue hversion
      · intro h
        cases h with
        | absent habsent => rw [hvalue] at habsent; cases habsent
        | given hgiven hversion =>
            rw [hvalue] at hgiven
            obtain rfl := Option.some.inj hgiven
            exact ⟨_, hversion, rfl⟩

/-- A library is read as what it is taken for. -/
theorem LibraryEntry.ofValue?_eq_some_iff {value : Value} {entry : LibraryEntry} :
    ofValue? value = some entry ↔ entry.TakenFrom value := by
  cases value with
  | string text =>
      apply Iff.intro
      · rintro ⟨⟩
        exact .joined
      · rintro ⟨⟩
        rfl
  | table fields =>
      simp only [ofValue?, Option.bind_eq_bind, Option.bind_eq_some_iff,
        VersionSpec.ofField?_table_eq_some_iff]
      apply Iff.intro
      · rintro ⟨version?, hversion, h⟩
        cases hmodule : Shape.textField? "module" (.table fields) with
        | some text =>
            rw [hmodule] at h
            obtain rfl := Option.some.inj h
            exact .module ⟨Shape.textField?_table_eq_some_iff.mp hmodule, hversion⟩
        | none =>
            simp only [hmodule, Option.bind_eq_some_iff, Shape.textField?_table_eq_some_iff,
              Option.some.injEq] at h
            obtain ⟨group, hgroup, name, hname, rfl⟩ := h
            refine .split ?_ hgroup hname hversion
            rintro text other ⟨htext, -⟩
            rw [Shape.textField?_table_eq_some_iff.mpr htext] at hmodule
            cases hmodule
      · intro h
        cases h with
        | module hmodule =>
            refine ⟨_, hmodule.2, ?_⟩
            rw [Shape.textField?_table_eq_some_iff.mpr hmodule.1]
        | @split _ group name version? hnone hgroup hname hversion =>
            refine ⟨version?, hversion, ?_⟩
            cases hmodule : Shape.textField? "module" (.table fields) with
            | some text =>
                rw [Shape.textField?_table_eq_some_iff] at hmodule
                exact absurd ⟨hmodule, hversion⟩ (hnone text version?)
            | none =>
                simp only [Shape.textField?_table_eq_some_iff.mpr hgroup,
                  Shape.textField?_table_eq_some_iff.mpr hname, Option.bind_some]
  | _ => exact iff_of_false nofun nofun

/-- A plugin is read as what it is taken for. -/
theorem PluginEntry.ofValue?_eq_some_iff {value : Value} {entry : PluginEntry} :
    ofValue? value = some entry ↔ entry.TakenFrom value := by
  cases value with
  | string text =>
      apply Iff.intro
      · rintro ⟨⟩
        exact .joined
      · rintro ⟨⟩
        rfl
  | table fields =>
      simp only [ofValue?, Option.bind_eq_bind, Option.bind_eq_some_iff,
        VersionSpec.ofField?_table_eq_some_iff, Shape.textField?_table_eq_some_iff,
        Option.some.injEq]
      apply Iff.intro
      · rintro ⟨version?, hversion, id, hid, rfl⟩
        exact .detailed hid hversion
      · rintro ⟨⟩
        exact ⟨_, ‹_›, _, ‹_›, rfl⟩
  | _ => exact iff_of_false nofun nofun

/-! ## Reading entries -/

theorem Shape.form_eq_ok_iff {α : Type} {name : String} {read? : Value → Option α}
    {value : Value} {result : α} :
    Shape.form name read? value = .ok result ↔ read? value = some result := by
  rw [Shape.form]
  cases read? value <;> simp

/-- What fits no form is refused. -/
theorem Shape.form_eq_error_iff {α : Type} {name : String} {read? : Value → Option α}
    {value : Value} {error : ShapeError} :
    Shape.form name read? value = .error error ↔
      error = .noForm name ∧ ∀ result, read? value ≠ some result := by
  rw [Shape.form]
  cases read? value <;> simp [eq_comm]

/-- The entries that a document has in a section. -/
def entriesUnder (document : List (String × Value)) (key : String) : List (String × Value) :=
  ((document.lookup key).bind Shape.entries?).getD []

/-- A map holds what the entries of a table are read as. -/
theorem rel_get?_of_forall₂ {α : Type} {item : Value → Except ShapeError α}
    {entries : List (String × Value)} {read : List (String × α)}
    (hnodup : (entries.map Prod.fst).Nodup)
    (h : List.Forall₂ (fun entry result => result.1 = entry.1 ∧ item entry.2 = .ok result.2)
      entries read) (name : String) :
    Option.Rel (fun value result => item value = .ok result) (entries.lookup name)
      ((NameMap.ofList read).get? name) := by
  have hkeys : read.map Prod.fst = entries.map Prod.fst := by
    rw [eq_comm, ← List.forall₂_eq_eq_eq, List.forall₂_map_left_iff, List.forall₂_map_right_iff]
    exact h.imp fun _ _ hsame => hsame.1.symm
  rw [NameMap.get?_ofList (hkeys ▸ hnodup)]
  clear hnodup hkeys
  induction h with
  | nil => exact .none
  | @cons entry result entries read hhead _ ih =>
      rw [List.lookup_cons, List.lookup_cons, hhead.1]
      cases name == entry.1 with
      | true => exact .some hhead.2
      | false => exact ih

theorem nodup_of_entries? {value : Value} {entries : List (String × Value)}
    (h : value.WellKeyed) (hentries : Shape.entries? value = some entries) :
    (entries.map Prod.fst).Nodup := by
  cases value with
  | table fields =>
      obtain rfl := Option.some.inj hentries
      exact h.nodup
  | dateTime text =>
      obtain rfl := Option.some.inj hentries
      exact List.nodup_singleton _
  | _ => cases hentries

section Sections

variable {document : List (String × Value)} (hdocument : (Value.table document).WellKeyed)

include hdocument

theorem nodup_entriesUnder (key : String) : ((entriesUnder document key).map Prod.fst).Nodup := by
  rw [entriesUnder]
  cases hlookup : document.lookup key with
  | none => exact List.nodup_nil
  | some value =>
      rw [Option.bind_some]
      cases hentries : Shape.entries? value with
      | none => exact List.nodup_nil
      | some entries => exact nodup_of_entries? (hdocument.of_lookup hlookup) hentries

/-- A section that is a map has an entry for each entry of the document, and no others. -/
theorem rel_get?_of_optional {α : Type} {item : Value → Except ShapeError α} {key : String}
    {map : NameMap α}
    (h : (Fields.ofEntries document).optional key (Shape.map item) .empty = .read map)
    (name : String) :
    Option.Rel (fun value result => item value = .ok result)
      ((entriesUnder document key).lookup name) (map.get? name) := by
  have hnodup := nodup_entriesUnder hdocument key
  rw [entriesUnder] at hnodup ⊢
  rcases Fields.optional_eq_read_iff.mp h with ⟨hlookup, rfl⟩ | ⟨value, hlookup, hmap⟩
  · have hlookup : document.lookup key = none := hlookup
    rw [hlookup]
    exact .none
  · have hlookup : document.lookup key = some value := hlookup
    rw [hlookup, Option.bind_some] at hnodup ⊢
    rw [Shape.map] at hmap
    cases hentries : Shape.entries? value with
    | none => simp [hentries] at hmap
    | some entries =>
        rw [hentries] at hmap hnodup
        obtain ⟨read, hread, hmap⟩ := bind_eq_ok_iff.mp hmap
        obtain rfl := Except.ok.inj hmap
        refine rel_get?_of_forall₂ hnodup ((mapM_eq_ok_iff.mp hread).imp ?_) name
        intro entry result hresult
        obtain ⟨value, hvalue, hpair⟩ := bind_eq_ok_iff.mp hresult
        obtain rfl := Except.ok.inj hpair
        exact ⟨rfl, hvalue⟩

end Sections

namespace Catalog

variable {document : List (String × Value)} {catalog : Catalog}

theorem ofFields_eq_ok_iff {fields : Fields} :
    ofFields fields = .ok catalog ↔
      fields.optional "versions" (Shape.map Shape.text) .empty = .read catalog.versions ∧
        fields.optional "libraries"
            (Shape.map (Shape.form "CatalogLibrary" LibraryEntry.ofValue?)) .empty =
          .read catalog.libraries ∧
        fields.optional "bundles" (Shape.map (Shape.list Shape.text)) .empty =
          .read catalog.bundles ∧
        fields.optional "plugins"
            (Shape.map (Shape.form "CatalogPlugin" PluginEntry.ofValue?)) .empty =
          .read catalog.plugins := by
  obtain ⟨versions, libraries, bundles, plugins⟩ := catalog
  rw [ofFields, Shape.Part.result_eq_ok_iff]
  simp only [Shape.Part.seq_eq_read_iff, Shape.Part.map_eq_read_iff]
  apply Iff.intro
  · rintro ⟨_, _, ⟨_, _, ⟨_, _, ⟨_, hversions, rfl⟩, hlibraries, rfl⟩, hbundles, rfl⟩, hplugins, h⟩
    obtain ⟨rfl, rfl, rfl, rfl⟩ := Catalog.mk.inj h
    exact ⟨hversions, hlibraries, hbundles, hplugins⟩
  · rintro ⟨hversions, hlibraries, hbundles, hplugins⟩
    exact ⟨_, _, ⟨_, _, ⟨_, _, ⟨_, hversions, rfl⟩, hlibraries, rfl⟩, hbundles, rfl⟩, hplugins, rfl⟩

/-- The version that a table of a document gives its entry. -/
inductive YieldsVersion (document fields : List (String × Value)) : Option String → Prop
  | absent : fields.lookup "version" = none → YieldsVersion document fields none
  | literal {version : String} : fields.lookup "version" = some (.string version) →
      YieldsVersion document fields (some version)
  | reference {inner : List (String × Value)} {name version : String} :
      fields.lookup "version" = some (.table inner) → inner.lookup "ref" = some (.string name) →
      (entriesUnder document "versions").lookup name = some (.string version) →
      YieldsVersion document fields (some version)

/-- Under every key, a catalog has an entry that is taken from the one in the document, or
neither of them has any. -/
structure ReadsFrom (catalog : Catalog) (document : List (String × Value)) : Prop where
  libraries : ∀ key, Option.Rel (fun value (entry : LibraryEntry) => entry.TakenFrom value)
    ((entriesUnder document "libraries").lookup key) (catalog.libraries.get? key)
  plugins : ∀ key, Option.Rel (fun value (entry : PluginEntry) => entry.TakenFrom value)
    ((entriesUnder document "plugins").lookup key) (catalog.plugins.get? key)

/-- What tables of the document are resolved to has the versions of the tables. -/
structure KeepsVersions (resolved : ResolvedCatalog) (document : List (String × Value)) :
    Prop where
  libraries : ∀ key fields, (key, .table fields) ∈ entriesUnder document "libraries" →
    ∃ library, resolved.library? key = some library ∧
      YieldsVersion document fields library.version?
  plugins : ∀ key fields, (key, .table fields) ∈ entriesUnder document "plugins" →
    ∃ plugin, resolved.plugins.find? (·.key == key) = some plugin ∧
      YieldsVersion document fields plugin.version?

theorem readsFrom_of_ofFields (hdocument : (Value.table document).WellKeyed)
    (hread : ofFields (.ofEntries document) = .ok catalog) : catalog.ReadsFrom document where
  libraries key := by
    obtain ⟨-, hlibraries, -⟩ := ofFields_eq_ok_iff.mp hread
    have hrel := rel_get?_of_optional hdocument hlibraries key
    simpa only [Shape.form_eq_ok_iff, LibraryEntry.ofValue?_eq_some_iff] using hrel
  plugins key := by
    obtain ⟨-, -, -, hplugins⟩ := ofFields_eq_ok_iff.mp hread
    have hrel := rel_get?_of_optional hdocument hplugins key
    simpa only [Shape.form_eq_ok_iff, PluginEntry.ofValue?_eq_some_iff] using hrel

/-- An entry of a document has its counterpart in a map that is read from the section. -/
theorem exists_of_mem_entriesUnder {α : Type} {takenFrom : Value → α → Prop} {key name : String}
    {map : NameMap α} {value : Value} (hdocument : (Value.table document).WellKeyed)
    (hrel : Option.Rel takenFrom ((entriesUnder document key).lookup name) (map.get? name))
    (hmem : (name, value) ∈ entriesUnder document key) :
    ∃ entry, map.get? name = some entry ∧ takenFrom value entry := by
  rw [NameMap.lookup_eq_some_of_mem (nodup_entriesUnder hdocument key) hmem] at hrel
  generalize map.get? name = entry? at hrel
  cases hrel with
  | some htaken => exact ⟨_, rfl, htaken⟩

/-- What the version in a table means is what the table yields. -/
theorem yieldsVersion_of_means (hdocument : (Value.table document).WellKeyed)
    (hread : ofFields (.ofEntries document) = .ok catalog) {fields : List (String × Value)}
    {version? : Option VersionSpec} {meant? : Option String}
    (hgiven : VersionSpec.GivenIn fields version?)
    (hmeans : VersionSpec.Means catalog.versions version? meant?) :
    YieldsVersion document fields meant? := by
  cases hgiven with
  | absent habsent =>
      cases hmeans
      exact .absent habsent
  | given hversion hwritten =>
      cases hwritten with
      | literal =>
          cases hmeans
          exact .literal hversion
      | @reference inner name href =>
          cases hmeans with
          | @reference _ version hget =>
              obtain ⟨hversions, -⟩ := ofFields_eq_ok_iff.mp hread
              have hrel := rel_get?_of_optional hdocument hversions name
              rw [hget] at hrel
              refine .reference hversion href ?_
              generalize (entriesUnder document "versions").lookup name = value? at hrel
              cases hrel with
              | @some value _ htext =>
                  cases value with
                  | string text => rw [Except.ok.inj htext]
                  | _ => cases htext

theorem keepsVersions_of_resolve {resolved : ResolvedCatalog}
    (hdocument : (Value.table document).WellKeyed)
    (hread : ofFields (.ofEntries document) = .ok catalog)
    (hresolve : catalog.resolve = .ok resolved) : KeepsVersions resolved document := by
  have hreads := readsFrom_of_ofFields hdocument hread
  have hresolves := resolve_eq_ok_iff.mp hresolve
  constructor
  · intro key fields hmem
    obtain ⟨entry, hentry, htaken⟩ :=
      exists_of_mem_entriesUnder hdocument (hreads.libraries key) hmem
    obtain ⟨library, hlibrary, hdenotes⟩ :=
      hresolves.libraries.find?_eq_some_of_get? (fun _ _ _ h => h.key_eq) hentry
    obtain ⟨version?, hwrites, hmeans⟩ := hdenotes.written
    refine ⟨library, hlibrary, ?_⟩
    cases htaken with
    | module hmodule =>
        cases hwrites
        exact yieldsVersion_of_means hdocument hread hmodule.2 hmeans
    | split _ _ _ hgiven =>
        cases hwrites
        exact yieldsVersion_of_means hdocument hread hgiven hmeans
  · intro key fields hmem
    obtain ⟨entry, hentry, htaken⟩ :=
      exists_of_mem_entriesUnder hdocument (hreads.plugins key) hmem
    obtain ⟨plugin, hplugin, hdenotes⟩ :=
      hresolves.plugins.find?_eq_some_of_get? (fun _ _ _ h => h.key_eq) hentry
    obtain ⟨version?, hwrites, hmeans⟩ := hdenotes.written
    refine ⟨plugin, hplugin, ?_⟩
    cases htaken with
    | detailed _ hgiven =>
        cases hwrites
        exact yieldsVersion_of_means hdocument hread hgiven hmeans

/-- An entry is read as what it is taken for, and refused when it is nothing that a library or
a plugin can be taken for. So a catalog that can be read from a text has the entries of the
document, each in its form, and when it can be resolved each table keeps its version: the one
it holds or refers to, and none if it holds none. -/
theorem entries_keep_versions :
    (∀ value,
      (∀ entry, Shape.form "CatalogLibrary" LibraryEntry.ofValue? value = .ok entry ↔
        entry.TakenFrom value) ∧
      ∀ error, Shape.form "CatalogLibrary" LibraryEntry.ofValue? value = .error error ↔
        error = .noForm "CatalogLibrary" ∧ ∀ entry : LibraryEntry, ¬ entry.TakenFrom value) ∧
    (∀ value,
      (∀ entry, Shape.form "CatalogPlugin" PluginEntry.ofValue? value = .ok entry ↔
        entry.TakenFrom value) ∧
      ∀ error, Shape.form "CatalogPlugin" PluginEntry.ofValue? value = .error error ↔
        error = .noForm "CatalogPlugin" ∧ ∀ entry : PluginEntry, ¬ entry.TakenFrom value) ∧
    ∀ text catalog, ofText text = .ok catalog →
      ∃ document, Toml.document? text = some document ∧ catalog.ReadsFrom document ∧
        ∀ resolved, catalog.resolve = .ok resolved → KeepsVersions resolved document := by
  simp only [Shape.form_eq_ok_iff, Shape.form_eq_error_iff, LibraryEntry.ofValue?_eq_some_iff,
    PluginEntry.ofValue?_eq_some_iff, ne_eq, implies_true, and_self, true_and]
  intro text catalog hread
  obtain ⟨document, hdocument, hread⟩ := Shape.readDocument_eq_ok_iff.mp hread
  have hkeyed := Toml.wellKeyed_of_document? hdocument
  exact ⟨document, hdocument, readsFrom_of_ofFields hkeyed hread,
    fun _ hresolve => keepsVersions_of_resolve hkeyed hread hresolve⟩

/-- A catalog in which a library refers to its version, another has none, and a plugin holds
its version. -/
def versionedText : String :=
  "[versions]\nkotlin = \"2.0.0\"\n" ++
  "[libraries]\nstdlib = \x7b module = \"lang:stdlib\", version.ref = \"kotlin\" \x7d\n" ++
  "bom = \x7b group = \"junit\", name = \"bom\" \x7d\n" ++
  "[plugins]\njvm = \x7b id = \"lang.jvm\", version = \"2.1\" \x7d\n"

theorem versionedText_keeps_versions :
    ∃ catalog resolved document, ofText versionedText = .ok catalog ∧
      catalog.resolve = .ok resolved ∧ Toml.document? versionedText = some document ∧
      KeepsVersions resolved document ∧
      resolved.libraries.map (·.version?) = [none, some "2.0.0"] ∧
      resolved.plugins.map (·.version?) = [some "2.1"] := by
  have hversions : ((ofText versionedText).toOption.bind (·.resolve.toOption)).map
      (fun resolved => (resolved.libraries.map (·.version?), resolved.plugins.map (·.version?))) =
        some ([none, some "2.0.0"], [some "2.1"]) := by decide +kernel
  obtain ⟨resolved, hresolved, hlisted⟩ := Option.map_eq_some_iff.mp hversions
  obtain ⟨catalog, hcatalog, hresolved⟩ := Option.bind_eq_some_iff.mp hresolved
  have hread := toOption_eq_some_iff.mp hcatalog
  have hresolve := toOption_eq_some_iff.mp hresolved
  obtain ⟨document, hdocument, -, hkeeps⟩ := entries_keep_versions.2.2 _ _ hread
  exact ⟨catalog, resolved, document, hread, hresolve, hdocument, hkeeps _ hresolve,
    Prod.mk.inj hlisted⟩

end Catalog

end BuildSettings
