/-
# Coordinates as text

Coordinates are read where an entry is written as one text, and they are shown where a
resolved library or plugin is printed. Reading and showing undo each other. What is read
from a text is shown as this text again, down to empty parts, and it is the only library or
plugin without further colons that is shown so.

Not every text holds the coordinates of a library: there are one or two colons in it. For a
plugin every text will do, because whatever comes behind the first colon is its version.
-/

import BuildSettings.Proofs.Catalog.Coordinates

namespace BuildSettings

variable {versions : NameMap String} {key text : String}

/-! ## Libraries -/

/-- No part of a library has a colon, its version included. -/
structure Library.IsColonFree (library : Library) : Prop where
  plain : library.IsPlain
  version : ∀ version, library.version? = some version → ':' ∉ version.toList

/-- A text stands for the library without further colons that is shown as this text. -/
theorem LibraryEntry.denotes_joined_iff {library : Library} :
    (LibraryEntry.joined text).Denotes versions key library ↔
      library.key = key ∧ library.coordinates = text ∧ library.IsColonFree := by
  apply Iff.intro
  · intro h
    obtain ⟨written?, hwrites, hmeans⟩ := h.written
    obtain ⟨_, group, artifact, version?⟩ := library
    cases hwrites with
    | pair htext hgroup hartifact =>
        cases hmeans with
        | absent => exact ⟨h.key_eq, htext.symm, ⟨hgroup, hartifact⟩, nofun⟩
    | triple htext hgroup hartifact hversion =>
        cases hmeans with
        | literal =>
            refine ⟨h.key_eq, htext.symm, ⟨hgroup, hartifact⟩, ?_⟩
            intro version heq
            rwa [← Option.some.inj heq]
  · intro h
    obtain ⟨hkey, rfl, hfree⟩ := h
    obtain ⟨hgroup, hartifact⟩ := hfree.plain
    obtain ⟨_, group, artifact, version?⟩ := library
    cases version? with
    | none => exact ⟨hkey, none, .pair rfl hgroup hartifact, .absent⟩
    | some version =>
        exact ⟨hkey, some (.literal version),
          .triple rfl hgroup hartifact (hfree.version version rfl), .literal⟩

/-- A text is read when it has two or three parts. -/
theorem Library.exists_ofCoordinates_eq_ok_iff :
    (∃ library, Library.ofCoordinates key text = .ok library) ↔
      text.toList.count ':' = 1 ∨ text.toList.count ':' = 2 := by
  have htwo : text.toList.count ':' = 1 ↔
      ∃ group artifact, colonParts text = [group, artifact] := by
    rw [← Catalog.partCount_eq_two_iff, Catalog.partCount]
    omega
  have hthree : text.toList.count ':' = 2 ↔
      ∃ group artifact version, colonParts text = [group, artifact, version] := by
    rw [← Catalog.partCount_eq_three_iff, Catalog.partCount]
    omega
  rw [htwo, hthree, Library.ofCoordinates]
  split
  · rename_i group artifact hparts
    exact iff_of_true ⟨_, rfl⟩ (.inl ⟨group, artifact, hparts⟩)
  · rename_i group artifact version hparts
    exact iff_of_true ⟨_, rfl⟩ (.inr ⟨group, artifact, version, hparts⟩)
  · rename_i hnotTwo hnotThree
    apply iff_of_false
    · intro h
      obtain ⟨library, h⟩ := h
      cases h
    · intro h
      rcases h with ⟨group, artifact, hparts⟩ | ⟨group, artifact, version, hparts⟩
      · exact hnotTwo group artifact hparts
      · exact hnotThree group artifact version hparts

/-! ## Plugins -/

/-- A text stands for the plugin that is shown as this text, without a colon in its
identifier. -/
theorem PluginEntry.denotes_joined_iff {plugin : Plugin} :
    (PluginEntry.joined text).Denotes versions key plugin ↔
      plugin.key = key ∧ plugin.coordinates = text ∧ ':' ∉ plugin.id.toList := by
  apply Iff.intro
  · intro h
    obtain ⟨written?, hwrites, hmeans⟩ := h.written
    obtain ⟨_, id, version?⟩ := plugin
    cases hwrites with
    | bare hid =>
        cases hmeans with
        | absent => exact ⟨h.key_eq, rfl, hid⟩
    | joined htext hid =>
        cases hmeans with
        | literal => exact ⟨h.key_eq, htext.symm, hid⟩
  · intro h
    obtain ⟨hkey, rfl, hid⟩ := h
    obtain ⟨_, id, version?⟩ := plugin
    cases version? with
    | none => exact ⟨hkey, none, .bare hid, .absent⟩
    | some version => exact ⟨hkey, some (.literal version), .joined rfl hid, .literal⟩

/-! ## Reading and showing -/

/-- Reading coordinates and showing them are inverse to each other. The texts with one or two
colons are read as libraries, each as the one library without further colons that is shown
as this text. Every text is read as a plugin, namely as the one that is shown as this text
and has no colon in its identifier. -/
theorem coordinates_are_read_as_shown :
    (∀ key text, (∃ library, Library.ofCoordinates key text = .ok library) ↔
        text.toList.count ':' = 1 ∨ text.toList.count ':' = 2) ∧
      (∀ key text library, Library.ofCoordinates key text = .ok library ↔
        library.key = key ∧ library.coordinates = text ∧ library.IsColonFree) ∧
      (∀ versions key text, ∃ plugin,
        (PluginEntry.joined text).resolve versions key = .ok plugin) ∧
      ∀ versions key text plugin,
        (PluginEntry.joined text).resolve versions key = .ok plugin ↔
          plugin.key = key ∧ plugin.coordinates = text ∧ ':' ∉ plugin.id.toList := by
  refine ⟨?_, ?_, ?_, ?_⟩
  · intro key text
    exact Library.exists_ofCoordinates_eq_ok_iff
  · intro key text library
    have hread := @Library.ofCoordinates_eq_ok_iff .empty key text library
    rw [hread, LibraryEntry.denotes_joined_iff]
  · intro versions key text
    exact ⟨Plugin.ofCoordinates key text, rfl⟩
  · intro versions key text plugin
    rw [PluginEntry.resolve_eq_ok_iff, PluginEntry.denotes_joined_iff]

end BuildSettings
