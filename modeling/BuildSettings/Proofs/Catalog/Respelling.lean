/-
# Entries that say the same

An entry is resolved to what it says, and a fault of it is a fault of what it says, so
long as it says anything. How it says this does not matter. To spell an entry of a catalog
in another form, one that says the same, leaves the answer for the catalog as it is:
resolution gives the same libraries, bundles and plugins, or fails with the same error,
which may well be about another entry. The same holds for any number of entries, one
after the other.
-/

import Mathlib.Logic.Relation
import BuildSettings.Proofs.Catalog.Completeness

namespace BuildSettings

/-! ## One entry in other words -/

/-- What an entry of a library says is all that its resolution depends on. -/
theorem LibraryEntry.Writes.resolve_eq {entry : LibraryEntry} {group artifact : String}
    {version? : Option VersionSpec} (h : entry.Writes group artifact version?)
    (versions : NameMap String) (key : String) :
    entry.resolve versions key =
      (VersionSpec.resolve versions key version?).map (⟨key, group, artifact, ·⟩) := by
  cases h with
  | pair htext hgroup hartifact =>
      rw [LibraryEntry.resolve, Library.ofCoordinates,
        colonParts_eq_pair_iff.mpr ⟨htext, hgroup, hartifact⟩]
      rfl
  | triple htext hgroup hartifact hversion =>
      rw [LibraryEntry.resolve, Library.ofCoordinates,
        colonParts_eq_triple_iff.mpr ⟨htext, hgroup, hartifact, hversion⟩]
      rfl
  | module htext hgroup hartifact =>
      rw [LibraryEntry.resolve, colonParts_eq_pair_iff.mpr ⟨htext, hgroup, hartifact⟩]
      rfl
  | split => rfl

/-- What an entry of a plugin says is all that its resolution depends on. -/
theorem PluginEntry.Writes.resolve_eq {entry : PluginEntry} {id : String}
    {version? : Option VersionSpec} (h : entry.Writes id version?)
    (versions : NameMap String) (key : String) :
    entry.resolve versions key =
      (VersionSpec.resolve versions key version?).map (⟨key, id, ·⟩) := by
  cases h with
  | bare hcolon =>
      exact PluginEntry.resolve_eq_ok_iff.mpr ⟨rfl, none, .bare hcolon, .absent⟩
  | joined htext hid =>
      exact PluginEntry.resolve_eq_ok_iff.mpr ⟨rfl, _, .joined htext hid, .literal⟩
  | detailed => rfl

/-! ## One entry of a map in place of another -/

/-- Steps for all entries of a map go as before when one of them is given a value that its
step makes no difference of. -/
theorem NameMap.mapM_insert {α β ε : Type} {m : NameMap α} {name : String} {value other : α}
    (step : String × α → Except ε β) (hget : m.get? name = some value)
    (hstep : step (name, other) = step (name, value)) :
    (m.insert name other).toList.mapM step = m.toList.mapM step := by
  refine mapM_congr_forall₂ ?_ (forall₂_insert hget other)
  rintro entry entry' (rfl | ⟨rfl, rfl⟩)
  · rfl
  · exact hstep

namespace Catalog

variable {catalog other : Catalog}

/-- An entry of a catalog is replaced by one that says the same. -/
inductive Respells (catalog : Catalog) : Catalog → Prop
  | library {key entry respelled group artifact version?} :
      catalog.libraries.get? key = some entry → entry.Writes group artifact version? →
        respelled.Writes group artifact version? →
          Respells catalog { catalog with libraries := catalog.libraries.insert key respelled }
  | plugin {key entry respelled id version?} :
      catalog.plugins.get? key = some entry → entry.Writes id version? →
        respelled.Writes id version? →
          Respells catalog { catalog with plugins := catalog.plugins.insert key respelled }

/-- The members of a bundle are looked for among the keys of the libraries, and these stay. -/
theorem checkBundle_insert {key : String} {entry : LibraryEntry}
    (hget : catalog.libraries.get? key = some entry) (respelled : LibraryEntry) (bundle : String)
    (members : List String) :
    checkBundle { catalog with libraries := catalog.libraries.insert key respelled } bundle
        members = catalog.checkBundle bundle members := by
  simp only [checkBundle, NameMap.contains_insert hget]

/-- To spell one entry in another way changes no answer. -/
theorem Respells.resolve_eq (h : catalog.Respells other) : other.resolve = catalog.resolve := by
  cases h with
  | @library key entry respelled group artifact version? hget hwrites hwrites' =>
      have hentry : respelled.resolve catalog.versions key = entry.resolve catalog.versions key :=
        (hwrites'.resolve_eq _ _).trans (hwrites.resolve_eq _ _).symm
      simp only [resolve, checkBundle_insert hget, NameMap.mapM_insert
        (fun entry => LibraryEntry.resolve catalog.versions entry.1 entry.2) hget hentry]
  | @plugin key entry respelled id version? hget hwrites hwrites' =>
      have hentry : respelled.resolve catalog.versions key = entry.resolve catalog.versions key :=
        (hwrites'.resolve_eq _ _).trans (hwrites.resolve_eq _ _).symm
      simp only [resolve, checkBundle, NameMap.mapM_insert
        (fun entry => PluginEntry.resolve catalog.versions entry.1 entry.2) hget hentry]

/-- To spell entries in other ways, one after the other, changes no answer, be it what the
catalog is resolved to or the error that is reported for it. -/
theorem resolve_eq_of_respelled (h : Relation.ReflTransGen Respells catalog other) :
    other.resolve = catalog.resolve := by
  induction h with
  | refl => rfl
  | tail _ hstep ih => rw [hstep.resolve_eq, ih]

/-- Entries of `mixed` in other forms. -/
def mixedRespelled : Catalog where
  versions := mixed.versions
  libraries := .ofList [("stdlib", .split "lang" "stdlib" (some (.reference "kotlin"))),
    ("gson", .module "json:gson" (some (.literal "2.11.0"))), ("jupiter", .joined "junit:jupiter"),
    ("bom", .split "junit" "bom" (some (.reference "alias")))]
  bundles := mixed.bundles
  plugins := .ofList [("shadow", .detailed "shadow" (some (.literal "8:3"))),
    ("jvm", .detailed "lang.jvm" none)]

/-- A bundle with a member that is no library of `mixed`. -/
def lackingBundles : NameMap (List String) :=
  .ofList [("tests", ["jupiter", "junit"])]

theorem mixed_respelled :
    (Relation.ReflTransGen Respells mixed mixedRespelled ∧
      mixedRespelled.resolve = .ok mixedResolved) ∧
    Relation.ReflTransGen Respells { mixed with bundles := lackingBundles }
        { mixedRespelled with bundles := lackingBundles } ∧
      Catalog.resolve { mixedRespelled with bundles := lackingBundles } =
        .error (.unknownLibrary "tests" "junit") := by
  have hsteps : ∀ bundles, Relation.ReflTransGen Respells { mixed with bundles := bundles }
      { mixedRespelled with bundles := bundles } := by
    intro bundles
    have hstdlib : LibraryEntry.Writes (.module "lang:stdlib" (some (.reference "kotlin")))
        "lang" "stdlib" (some (.reference "kotlin")) := .module rfl (by decide) (by decide)
    have hgson : LibraryEntry.Writes (.joined "json:gson:2.11.0") "json" "gson"
        (some (.literal "2.11.0")) := .triple rfl (by decide) (by decide) (by decide)
    have hgson' : LibraryEntry.Writes (.module "json:gson" (some (.literal "2.11.0"))) "json"
        "gson" (some (.literal "2.11.0")) := .module rfl (by decide) (by decide)
    have hjupiter : LibraryEntry.Writes (.joined "junit:jupiter") "junit" "jupiter" none :=
      .pair rfl (by decide) (by decide)
    have hshadow : PluginEntry.Writes (.joined "shadow:8:3") "shadow" (some (.literal "8:3")) :=
      .joined rfl (by decide)
    refine .head (@Respells.library _ "stdlib" _ _ _ _ _ rfl hstdlib .split) ?_
    refine .head (@Respells.library _ "gson" _ _ _ _ _ rfl hgson hgson') ?_
    refine .head (@Respells.library _ "jupiter" _ _ _ _ _ rfl .split hjupiter) ?_
    exact .single (@Respells.plugin _ "shadow" _ _ _ _ rfl hshadow .detailed)
  have hmixed : mixed.resolve = .ok mixedResolved := rfl
  have hlacking : Catalog.resolve { mixed with bundles := lackingBundles } =
      .error (.unknownLibrary "tests" "junit") := rfl
  exact ⟨⟨hsteps _, (resolve_eq_of_respelled (hsteps _)).trans hmixed⟩,
    hsteps _, (resolve_eq_of_respelled (hsteps _)).trans hlacking⟩

end Catalog

end BuildSettings
