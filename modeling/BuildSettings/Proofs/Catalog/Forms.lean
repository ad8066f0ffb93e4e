/-
# What the entries of a catalog say

A library can be written in three forms and a plugin in two. The forms differ in where
the parts of an entry stand, and not in what the parts are: a library is written with a
group, an artifact and perhaps a version, a plugin with an identifier and perhaps a
version. What an entry says is here told apart from what its version means, which is
the one thing that depends on the rest of the catalog.

An entry is resolved to what it says, with its version replaced by what that means. A
catalog is resolved entry by entry, and bundles are kept as they are.
-/

import BuildSettings.Proofs.Catalog.Faults

namespace BuildSettings

/-! ## What is written -/

/-- What a version means, if one is given: a literal is meant as it is written, and a
reference means the version of that name, whatever this looks like. -/
inductive VersionSpec.Means (versions : NameMap String) :
    Option VersionSpec → Option String → Prop
  | absent : Means versions none none
  | literal {version} : Means versions (some (.literal version)) (some version)
  | reference {name version} : versions.get? name = some version →
      Means versions (some (.reference name)) (some version)

/-- The group, artifact and version that an entry of a library says, as they are written. -/
inductive LibraryEntry.Writes : LibraryEntry → String → String → Option VersionSpec → Prop
  | pair {text group artifact} : text = group ++ ":" ++ artifact →
      ':' ∉ group.toList → ':' ∉ artifact.toList → Writes (.joined text) group artifact none
  | triple {text group artifact version} : text = group ++ ":" ++ artifact ++ ":" ++ version →
      ':' ∉ group.toList → ':' ∉ artifact.toList → ':' ∉ version.toList →
        Writes (.joined text) group artifact (some (.literal version))
  | module {text group artifact version?} : text = group ++ ":" ++ artifact →
      ':' ∉ group.toList → ':' ∉ artifact.toList →
        Writes (.module text version?) group artifact version?
  | split {group artifact version?} :
      Writes (.split group artifact version?) group artifact version?

/-- The identifier and version that an entry of a plugin says, as they are written. -/
inductive PluginEntry.Writes : PluginEntry → String → Option VersionSpec → Prop
  | bare {id} : ':' ∉ id.toList → Writes (.joined id) id none
  | joined {text id version} : text = id ++ ":" ++ version → ':' ∉ id.toList →
      Writes (.joined text) id (some (.literal version))
  | detailed {id version?} : Writes (.detailed id version?) id version?

/-- The library that stands for an entry under a key. -/
structure LibraryEntry.Denotes (versions : NameMap String) (key : String)
    (entry : LibraryEntry) (library : Library) : Prop where
  key_eq : library.key = key
  written : ∃ version?, entry.Writes library.group library.artifact version? ∧
    VersionSpec.Means versions version? library.version?

/-- The plugin that stands for an entry under a key. -/
structure PluginEntry.Denotes (versions : NameMap String) (key : String)
    (entry : PluginEntry) (plugin : Plugin) : Prop where
  key_eq : plugin.key = key
  written : ∃ version?, entry.Writes plugin.id version? ∧
    VersionSpec.Means versions version? plugin.version?

/-! ## Parts between colons -/

/-- The parts of a text are texts without colons that give it back with colons between
them. -/
theorem colonParts_eq_iff {text : String} {parts : List String} (hne : parts ≠ []) :
    colonParts text = parts ↔
      text.toList = [':'].intercalate (parts.map String.toList) ∧
        ∀ part ∈ parts, ':' ∉ part.toList := by
  have hparts : colonParts text = parts ↔ parts.map String.toList = text.toList.splitOn ':' := by
    rw [colonParts]
    apply Iff.intro
    · rintro rfl
      simp
    · intro h
      rw [← h]
      simp
  rw [hparts, ← Text.arePieces_iff]
  apply Iff.intro
  · intro h
    exact ⟨h.joined.symm, fun part hmem => h.not_mem _ (List.mem_map_of_mem hmem)⟩
  · intro h
    refine ⟨by simpa using hne, h.1.symm, ?_⟩
    intro piece hpiece
    obtain ⟨part, hmem, rfl⟩ := List.mem_map.mp hpiece
    exact h.2 part hmem

theorem colonParts_eq_pair_iff {text group artifact : String} :
    colonParts text = [group, artifact] ↔
      text = group ++ ":" ++ artifact ∧ ':' ∉ group.toList ∧ ':' ∉ artifact.toList := by
  rw [colonParts_eq_iff (List.cons_ne_nil _ _), ← String.toList_inj]
  simp [List.intercalate]

theorem colonParts_eq_triple_iff {text group artifact version : String} :
    colonParts text = [group, artifact, version] ↔
      text = group ++ ":" ++ artifact ++ ":" ++ version ∧
        ':' ∉ group.toList ∧ ':' ∉ artifact.toList ∧ ':' ∉ version.toList := by
  rw [colonParts_eq_iff (List.cons_ne_nil _ _), ← String.toList_inj]
  simp [List.intercalate]

/-- The text of a plugin that has no colon is its identifier. Otherwise the first colon
parts identifier and version. -/
theorem Plugin.ofCoordinates_cases (key text : String) :
    (':' ∉ text.toList ∧ Plugin.ofCoordinates key text = ⟨key, text, none⟩) ∨
    ∃ id version, text = id ++ ":" ++ version ∧ ':' ∉ id.toList ∧
      Plugin.ofCoordinates key text = ⟨key, id, some version⟩ := by
  have hsplit := List.takeWhile_append_dropWhile (p := (· != ':')) (l := text.toList)
  have htaken : ':' ∉ text.toList.takeWhile (· != ':') := by
    intro hmem
    simpa using List.all_eq_true.mp List.all_takeWhile _ hmem
  rw [Plugin.ofCoordinates]
  cases hrest : text.toList.dropWhile (· != ':') with
  | nil =>
      rw [hrest, List.append_nil] at hsplit
      rw [hsplit] at htaken
      exact .inl ⟨htaken, rfl⟩
  | cons c version =>
      have hcolon : c = ':' := by
        have hnot := List.head?_dropWhile_not (· != ':') text.toList
        simpa [hrest] using hnot
      refine .inr ⟨String.ofList (text.toList.takeWhile (· != ':')), String.ofList version,
        ?_, ?_, rfl⟩
      · rw [← String.toList_inj]
        simpa [hrest, hcolon] using hsplit.symm
      · simpa using htaken

/-! ## Resolving entries -/

theorem VersionSpec.resolve_eq_ok_iff {versions : NameMap String} {key : String}
    {version? : Option VersionSpec} {meant? : Option String} :
    VersionSpec.resolve versions key version? = .ok meant? ↔
      VersionSpec.Means versions version? meant? := by
  match version? with
  | none =>
      rw [VersionSpec.resolve, Except.ok.injEq]
      apply Iff.intro
      · rintro rfl
        exact .absent
      · rintro ⟨⟩
        rfl
  | some (.literal version) =>
      rw [VersionSpec.resolve, Except.ok.injEq]
      apply Iff.intro
      · rintro rfl
        exact .literal
      · rintro ⟨⟩
        rfl
  | some (.reference name) =>
      rw [VersionSpec.resolve]
      apply Iff.intro
      · intro h
        cases hget : versions.get? name with
        | none =>
            rw [hget] at h
            cases h
        | some version =>
            rw [hget] at h
            cases h
            exact .reference hget
      · intro h
        cases h with
        | reference hget => rw [hget]

theorem Library.ofCoordinates_eq_ok_iff {versions : NameMap String} {key text : String}
    {library : Library} :
    Library.ofCoordinates key text = .ok library ↔
      (LibraryEntry.joined text).Denotes versions key library := by
  obtain ⟨name, group, artifact, version?⟩ := library
  apply Iff.intro
  · intro h
    rw [Library.ofCoordinates] at h
    split at h
    · rename_i hparts
      obtain ⟨rfl, rfl, rfl, rfl⟩ := Library.mk.inj (Except.ok.inj h)
      obtain ⟨htext, hgroup, hartifact⟩ := colonParts_eq_pair_iff.mp hparts
      exact ⟨rfl, none, .pair htext hgroup hartifact, .absent⟩
    · rename_i hparts
      obtain ⟨rfl, rfl, rfl, rfl⟩ := Library.mk.inj (Except.ok.inj h)
      obtain ⟨htext, hgroup, hartifact, hversion⟩ := colonParts_eq_triple_iff.mp hparts
      exact ⟨rfl, _, .triple htext hgroup hartifact hversion, .literal⟩
    · cases h
  · intro h
    rcases h with ⟨rfl, _, hwrites, hmeans⟩
    cases hwrites with
    | pair htext hgroup hartifact =>
        cases hmeans
        rw [Library.ofCoordinates, colonParts_eq_pair_iff.mpr ⟨htext, hgroup, hartifact⟩]
    | triple htext hgroup hartifact hversion =>
        cases hmeans
        rw [Library.ofCoordinates,
          colonParts_eq_triple_iff.mpr ⟨htext, hgroup, hartifact, hversion⟩]

/-- An entry of a library is resolved to what it says. -/
theorem LibraryEntry.resolve_eq_ok_iff {versions : NameMap String} {key : String}
    {entry : LibraryEntry} {library : Library} :
    entry.resolve versions key = .ok library ↔ entry.Denotes versions key library := by
  cases entry with
  | joined text => exact Library.ofCoordinates_eq_ok_iff
  | module text version? =>
      obtain ⟨name, group, artifact, meant?⟩ := library
      apply Iff.intro
      · intro h
        rw [LibraryEntry.resolve] at h
        split at h
        · rename_i hparts
          obtain ⟨_, hversion, h⟩ := bind_eq_ok_iff.mp h
          obtain ⟨rfl, rfl, rfl, rfl⟩ := Library.mk.inj (Except.ok.inj h)
          obtain ⟨htext, hgroup, hartifact⟩ := colonParts_eq_pair_iff.mp hparts
          exact ⟨rfl, _, .module htext hgroup hartifact, VersionSpec.resolve_eq_ok_iff.mp hversion⟩
        · cases h
      · intro h
        rcases h with ⟨rfl, _, hwrites, hmeans⟩
        cases hwrites with
        | module htext hgroup hartifact =>
            rw [LibraryEntry.resolve, colonParts_eq_pair_iff.mpr ⟨htext, hgroup, hartifact⟩]
            exact bind_eq_ok_iff.mpr ⟨_, VersionSpec.resolve_eq_ok_iff.mpr hmeans, rfl⟩
  | split group artifact version? =>
      obtain ⟨name, group', artifact', meant?⟩ := library
      rw [LibraryEntry.resolve, bind_eq_ok_iff]
      apply Iff.intro
      · intro h
        rcases h with ⟨_, hversion, h⟩
        obtain ⟨rfl, rfl, rfl, rfl⟩ := Library.mk.inj (Except.ok.inj h)
        exact ⟨rfl, _, .split, VersionSpec.resolve_eq_ok_iff.mp hversion⟩
      · intro h
        rcases h with ⟨rfl, _, hwrites, hmeans⟩
        cases hwrites with
        | split => exact ⟨_, VersionSpec.resolve_eq_ok_iff.mpr hmeans, rfl⟩

/-- An entry of a plugin is resolved to what it says. -/
theorem PluginEntry.resolve_eq_ok_iff {versions : NameMap String} {key : String}
    {entry : PluginEntry} {plugin : Plugin} :
    entry.resolve versions key = .ok plugin ↔ entry.Denotes versions key plugin := by
  obtain ⟨name, id, meant?⟩ := plugin
  cases entry with
  | joined text =>
      rw [PluginEntry.resolve, Except.ok.injEq]
      rcases Plugin.ofCoordinates_cases key text with ⟨hcolon, heq⟩ |
        ⟨id', version, htext, hid', heq⟩
      · rw [heq]
        apply Iff.intro
        · rintro ⟨⟩
          exact ⟨rfl, none, .bare hcolon, .absent⟩
        · intro h
          rcases h with ⟨rfl, _, hwrites, hmeans⟩
          cases hwrites with
          | bare _ =>
              cases hmeans
              rfl
          | joined htext _ =>
              -- A text without colons is no identifier with a colon behind it.
              exact absurd (by simp [htext]) hcolon
      · rw [heq]
        apply Iff.intro
        · rintro ⟨⟩
          exact ⟨rfl, _, .joined htext hid', .literal⟩
        · intro h
          have hcolon : ':' ∈ text.toList := by simp [htext]
          rcases h with ⟨rfl, _, hwrites, hmeans⟩
          cases hwrites with
          | bare hnot => exact absurd hcolon hnot
          | @joined _ _ other htext' hid =>
              cases hmeans
              have hparts : id'.toList ++ ':' :: version.toList =
                  id.toList ++ ':' :: other.toList := by
                simpa [← String.toList_inj] using htext.symm.trans htext'
              rw [Text.append_separator_inj hid' hid, String.toList_inj,
                String.toList_inj] at hparts
              rw [hparts.1, hparts.2]
  | detailed id' version? =>
      rw [PluginEntry.resolve, bind_eq_ok_iff]
      apply Iff.intro
      · intro h
        rcases h with ⟨_, hversion, h⟩
        obtain ⟨rfl, rfl, rfl⟩ := Plugin.mk.inj (Except.ok.inj h)
        exact ⟨rfl, _, .detailed, VersionSpec.resolve_eq_ok_iff.mp hversion⟩
      · intro h
        rcases h with ⟨rfl, _, hwrites, hmeans⟩
        cases hwrites with
        | detailed => exact ⟨_, VersionSpec.resolve_eq_ok_iff.mpr hmeans, rfl⟩

end BuildSettings
