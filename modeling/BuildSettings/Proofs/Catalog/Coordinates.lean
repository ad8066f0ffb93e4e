/-
# Coordinates of libraries

A library is shown as its group, artifact and version with colons between them. As long
as group and artifact have no colon themselves, libraries that differ are shown
differently. Two of the three forms of an entry see to that, because they are cut at
their colons. An entry that gives group and artifact apart is taken as it is, so it can
put a colon into either. Nothing in any form asks for a part not to be empty.
-/

import BuildSettings.Proofs.Catalog.Completeness

namespace BuildSettings

/-- An entry does not put colons into its group or its artifact. -/
def LibraryEntry.HasPlainParts : LibraryEntry → Prop
  | .joined _ => True
  | .module _ _ => True
  | .split group artifact _ => ':' ∉ group.toList ∧ ':' ∉ artifact.toList

/-- The group and the artifact of a library have no colon. -/
def Library.IsPlain (library : Library) : Prop :=
  ':' ∉ library.group.toList ∧ ':' ∉ library.artifact.toList

theorem LibraryEntry.Writes.plain {entry : LibraryEntry} {group artifact : String}
    {version? : Option VersionSpec} (hwrites : entry.Writes group artifact version?)
    (hplain : entry.HasPlainParts) : ':' ∉ group.toList ∧ ':' ∉ artifact.toList := by
  cases hwrites with
  | pair _ hgroup hartifact => exact ⟨hgroup, hartifact⟩
  | triple _ hgroup hartifact _ => exact ⟨hgroup, hartifact⟩
  | module _ hgroup hartifact => exact ⟨hgroup, hartifact⟩
  | split => exact hplain

/-! ## Libraries that are shown alike -/

/-- What a library shows behind its group. -/
def Library.tail (library : Library) : List Char :=
  match library.version? with
  | some version => library.artifact.toList ++ ':' :: version.toList
  | none => library.artifact.toList

theorem Library.toList_coordinates (library : Library) :
    library.coordinates.toList = library.group.toList ++ ':' :: library.tail := by
  rw [coordinates, tail]
  cases library.version? <;> simp

/-- Behind their groups, libraries without colons in their artifacts show these and their
versions. -/
theorem Library.tail_inj {a b : Library} (ha : ':' ∉ a.artifact.toList)
    (hb : ':' ∉ b.artifact.toList) (h : a.tail = b.tail) :
    a.artifact = b.artifact ∧ a.version? = b.version? := by
  rw [tail, tail] at h
  cases hversion : a.version? with
  | none =>
      rw [hversion] at h
      cases hversion' : b.version? with
      | none =>
          rw [hversion'] at h
          exact ⟨String.toList_inj.mp h, rfl⟩
      | some version' =>
          -- The colon in front of the version would stand in the artifact of the other.
          rw [hversion'] at h
          simp only at h
          exact absurd (by simp [h]) ha
  | some version =>
      rw [hversion] at h
      cases hversion' : b.version? with
      | none =>
          rw [hversion'] at h
          simp only at h
          exact absurd (by simp [← h]) hb
      | some version' =>
          rw [hversion'] at h
          obtain ⟨hartifact, hversions⟩ := (Text.append_separator_inj ha hb).mp h
          rw [String.toList_inj.mp hartifact, String.toList_inj.mp hversions]
          exact ⟨rfl, rfl⟩

/-- Plain libraries that are shown alike agree in group, artifact and version. -/
theorem Library.coordinates_inj {a b : Library} (ha : a.IsPlain) (hb : b.IsPlain)
    (h : a.coordinates = b.coordinates) :
    a.group = b.group ∧ a.artifact = b.artifact ∧ a.version? = b.version? := by
  have hparts : a.group.toList ++ ':' :: a.tail = b.group.toList ++ ':' :: b.tail := by
    rw [← toList_coordinates, ← toList_coordinates, h]
  obtain ⟨hgroup, htail⟩ := (Text.append_separator_inj ha.1 hb.1).mp hparts
  exact ⟨String.toList_inj.mp hgroup, tail_inj ha.2 hb.2 htail⟩

namespace Catalog

variable {catalog : Catalog} {resolved : ResolvedCatalog}

/-- Every library of a resolved catalog has an entry under its key. Unless this gives group
and artifact apart and puts a colon into one of them, the library is plain, and its group
and artifact are the parts that are written, be they empty or not. Plain libraries that
are shown alike agree in group, artifact and version. -/
theorem plain_libraries_told_apart (h : catalog.resolve = .ok resolved) :
    (∀ library ∈ resolved.libraries, ∃ entry,
      catalog.libraries.get? library.key = some entry ∧
        (entry.HasPlainParts → library.IsPlain ∧
          ∃ version?, entry.Writes library.group library.artifact version?)) ∧
    ∀ a ∈ resolved.libraries, ∀ b ∈ resolved.libraries, a.IsPlain → b.IsPlain →
      a.coordinates = b.coordinates →
        a.group = b.group ∧ a.artifact = b.artifact ∧ a.version? = b.version? := by
  refine ⟨?_, fun a _ b _ => Library.coordinates_inj⟩
  intro library hmem
  have hlibraries := (resolve_eq_ok_iff.mp h).libraries
  obtain ⟨entry, hentry, hdenotes⟩ :=
    hlibraries.get?_key_eq_some (fun _ _ _ hdenotes => hdenotes.key_eq) hmem
  refine ⟨entry, hentry, ?_⟩
  intro hplain
  obtain ⟨version?, hwrites, -⟩ := hdenotes.written
  exact ⟨hwrites.plain hplain, version?, hwrites⟩

/-- A catalog with a library that is made of empty parts, with two forms of one library,
and with another library that is shown like these. -/
def lookalikes : Catalog where
  libraries := .ofList [("blank", .joined ":"), ("joined", .joined "a:b:1"),
    ("module", .module "a:b" (some (.literal "1"))), ("split", .split "a" "b:1" none)]

/-- What the catalog is resolved to. -/
def lookalikesResolved : ResolvedCatalog where
  libraries := [⟨"blank", "", "", none⟩, ⟨"joined", "a", "b", some "1"⟩,
    ⟨"module", "a", "b", some "1"⟩, ⟨"split", "a", "b:1", none⟩]
  bundles := .empty
  plugins := []

theorem lookalikes_told_apart :
    lookalikes.resolve = .ok lookalikesResolved ∧
      ∃ a ∈ lookalikesResolved.libraries, ∃ b ∈ lookalikesResolved.libraries, a.key ≠ b.key ∧
        a.coordinates = b.coordinates ∧ a.IsPlain ∧ b.IsPlain ∧
          a.group = b.group ∧ a.artifact = b.artifact ∧ a.version? = b.version? := by
  have hresolve : lookalikes.resolve = .ok lookalikesResolved := rfl
  obtain ⟨hentries, hinj⟩ := plain_libraries_told_apart hresolve
  have hjoined : ⟨"joined", "a", "b", some "1"⟩ ∈ lookalikesResolved.libraries := by decide
  have hmodule : ⟨"module", "a", "b", some "1"⟩ ∈ lookalikesResolved.libraries := by decide
  have hplain : ∀ library ∈ lookalikesResolved.libraries, ∀ entry,
      lookalikes.libraries.get? library.key = some entry → entry.HasPlainParts →
        library.IsPlain := by
    intro library hmem entry hentry hparts
    obtain ⟨other, hother, hlibrary⟩ := hentries library hmem
    obtain rfl := Option.some.inj (hentry.symm.trans hother)
    exact (hlibrary hparts).1
  have hfirst := hplain _ hjoined (.joined "a:b:1") rfl trivial
  have hsecond := hplain _ hmodule (.module "a:b" (some (.literal "1"))) rfl trivial
  exact ⟨hresolve, _, hjoined, _, hmodule, by decide, rfl, hfirst, hsecond,
    hinj _ hjoined _ hmodule hfirst hsecond rfl⟩

/-- Libraries of resolved catalogs may have empty parts, and colons that make two of them
look alike. -/
theorem not_all_libraries_told_apart :
    ¬ ∀ (catalog : Catalog) (resolved : ResolvedCatalog), catalog.resolve = .ok resolved →
      (∀ library ∈ resolved.libraries,
        library.group ≠ "" ∧ library.artifact ≠ "" ∧ library.IsPlain) ∧
      ∀ a ∈ resolved.libraries, ∀ b ∈ resolved.libraries, a.coordinates = b.coordinates →
        a.group = b.group ∧ a.artifact = b.artifact ∧ a.version? = b.version? := by
  intro hall
  obtain ⟨hwellFormed, -⟩ := hall lookalikes lookalikesResolved rfl
  obtain ⟨hgroup, -, -⟩ := hwellFormed ⟨"blank", "", "", none⟩ (by decide)
  exact hgroup rfl

/-- The second condition fails for the same catalog. -/
example : Library.coordinates ⟨"joined", "a", "b", some "1"⟩ =
    Library.coordinates ⟨"split", "a", "b:1", none⟩ := by decide

end Catalog

end BuildSettings
