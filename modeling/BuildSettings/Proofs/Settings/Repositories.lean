/-
# Repositories with a URL

An entry of a repository list that is a table gives a URL. It keeps its place on the way
from the document to the workspace, but the slashes at its end are dropped. That can
leave nothing to be named, and then the document does not resolve, so the URL of a repository in a
workspace is neither blank nor ends in a slash.

A section about repositories is a table, or the list of its fields, of which the repositories
come first.
-/

import BuildSettings.Proofs.Settings.Contents
import BuildSettings.Proofs.Workspace.Growth

namespace BuildSettings

open Shape (Fields IsList)
open Toml (Value)

/-! ## Entries of a document -/

/-- The key of the section that lists the repositories of a scope. -/
def RepositoryScope.sectionName : RepositoryScope → String
  | .plugin => "plugin-management"
  | .dependency => "dependency-resolution"

/-- A section gives its repositories, under their key or as the first of its fields. -/
inductive GivesRepositories : Value → Value → Prop
  | keyed {sect : List (String × Value)} {repositories : Value} :
      sect.lookup "repositories" = some repositories →
      GivesRepositories (.table sect) repositories
  | listed {sect repositories : Value} {later : List Value} :
      IsList sect (repositories :: later) → GivesRepositories sect repositories

/-- An entry stands at a position of a repository list of a document. -/
inductive EntryAt (document : List (String × Value)) (scope : RepositoryScope) (position : Nat)
    (entry : Value) : Prop
  | intro {sect repositories : Value} {entries : List Value} :
      document.lookup scope.sectionName = some sect → GivesRepositories sect repositories →
      IsList repositories entries → entries[position]? = some entry →
      EntryAt document scope position entry

/-- There is a table with a URL at a position of a repository list of a document. -/
def GivesUrl (document : List (String × Value)) (scope : RepositoryScope) (position : Nat)
    (url : String) : Prop :=
  ∃ entry, EntryAt document scope position entry ∧ HoldsRepository (.table url) entry

variable {document : List (String × Value)} {declaration : Declaration} {scope : RepositoryScope}
  {position : Nat} {entry : Value} {url : String}

/-! ## Reading them -/

/-- However the section is written, its repositories are what is read as such. -/
theorem GivesRepositories.lookup {sect repositories : Value} {fields : Fields} {name : String}
    {later : List String} (h : GivesRepositories sect repositories)
    (hfields : Fields.ofValue name ("repositories" :: later) sect = .ok fields) :
    fields.entries.lookup "repositories" = some repositories := by
  cases h with
  | keyed hlookup =>
      obtain rfl := Except.ok.inj hfields
      exact hlookup
  | listed hlist =>
      rw [Fields.ofValue, hlist.items?] at hfields
      obtain rfl := Except.ok.inj hfields
      rfl

/-- What a list is read as has at every position what the item there is read as. -/
theorem getElem?_of_mapM {α : Type} {reader : Value → Except ShapeError α} {items : List Value}
    {results : List α} (hread : items.mapM reader = .ok results)
    (hitem : items[position]? = some entry) :
    ∃ result, results[position]? = some result ∧ reader entry = .ok result := by
  have hresults := mapM_eq_ok_iff.mp hread
  obtain ⟨hposition, rfl⟩ := List.getElem?_eq_some_iff.mp hitem
  have hlength := hposition
  rw [hresults.length_eq] at hlength
  exact ⟨results[position], List.getElem?_eq_getElem hlength, hresults.get hposition hlength⟩

/-- What is read of a field that is given is what its value is read as. -/
theorem reader_eq_ok_of_optional {α : Type} {fields : Fields} {key : String}
    {reader : Value → Except ShapeError α} {default result : α} {value : Value}
    (hread : fields.optional key reader default = .read result)
    (hlookup : fields.entries.lookup key = some value) : reader value = .ok result := by
  rcases Fields.optional_eq_read_iff.mp hread with ⟨hnone, -⟩ | ⟨given, hgiven, hresult⟩
  · rw [hlookup] at hnone
    cases hnone
  · obtain rfl := Option.some.inj (hlookup.symm.trans hgiven)
    exact hresult

/-- Both sections are read by their fields, and give a declaration its repositories. -/
theorem section_of_ofFields (hread : Declaration.ofFields (.ofEntries document) = .ok declaration)
    {sect : Value} (hsect : document.lookup scope.sectionName = some sect) :
    ∃ name later fields, Fields.ofValue name ("repositories" :: later) sect = .ok fields ∧
      fields.optional "repositories" (Shape.list Repository.ofValue) [] =
        .read (declaration.repositories scope) := by
  simp only [Declaration.ofFields, Shape.Part.result_eq_ok_iff, Shape.Part.seq_eq_read_iff,
    Shape.Part.map_eq_read_iff] at hread
  obtain ⟨_, catalogs, ⟨_, dependencies, ⟨_, plugins, ⟨project, -, rfl⟩, hplugins, rfl⟩,
    hdependencies, rfl⟩, -, rfl⟩ := hread
  cases scope with
  | plugin =>
      obtain ⟨fields, hfields, hresult⟩ :=
        bind_eq_ok_iff.mp (reader_eq_ok_of_optional hplugins hsect)
      simp only [Shape.Part.result_eq_ok_iff, Shape.Part.seq_eq_read_iff,
        Shape.Part.map_eq_read_iff] at hresult
      obtain ⟨_, builds, ⟨repositories, hrepositories, rfl⟩, -, rfl⟩ := hresult
      exact ⟨_, _, fields, hfields, hrepositories⟩
  | dependency =>
      obtain ⟨fields, hfields, hresult⟩ :=
        bind_eq_ok_iff.mp (reader_eq_ok_of_optional hdependencies hsect)
      exact ⟨_, _, fields, hfields, Shape.Part.result_eq_ok_iff.mp hresult⟩

/-- A declaration has, at every position of its repository lists, what the entry of the
document at this position is read as. -/
theorem declared_of_entryAt (hread : Declaration.ofFields (.ofEntries document) = .ok declaration)
    (hentry : EntryAt document scope position entry) :
    ∃ repository, (declaration.repositories scope)[position]? = some repository ∧
      Repository.ofValue entry = .ok repository := by
  obtain ⟨hsect, hgives, hlist, hentry⟩ := hentry
  obtain ⟨name, later, fields, hfields, hrepositories⟩ := section_of_ofFields hread hsect
  have hitems := reader_eq_ok_of_optional hrepositories (hgives.lookup hfields)
  rw [Shape.list, hlist.items?] at hitems
  exact getElem?_of_mapM hitems hentry

/-! ## URLs -/

namespace Repository

/-- Slashes at the end of a URL do not count, however many there are. -/
theorem ofUrl_eq_of_append {rest : List Char} {count : Nat}
    (h : url.toList = rest ++ List.replicate count '/') :
    ofUrl url = ofUrl (String.ofList rest) := by
  obtain ⟨hlast, more, hrest⟩ := Text.dropTrailing_eq_iff.mp
    (rfl : Text.dropTrailing '/' (String.ofList rest) = _)
  rw [String.toList_ofList] at hrest
  refine congrArg (Repository.mk .url) (Text.dropTrailing_eq_iff.mpr ⟨hlast, more + count, ?_⟩)
  rw [h, List.replicate_add, ← List.append_assoc, ← hrest]

/-- Two URLs are of one repository when they differ in nothing but slashes at their ends. -/
theorem ofUrl_eq_ofUrl_iff {other : String} :
    ofUrl url = ofUrl other ↔ ∃ rest count more,
      url.toList = rest ++ List.replicate count '/' ∧
        other.toList = rest ++ List.replicate more '/' := by
  apply Iff.intro
  · intro h
    have hlocation : Text.dropTrailing '/' url = Text.dropTrailing '/' other :=
      congrArg Repository.location h
    obtain ⟨-, count, hurl⟩ := Text.dropTrailing_eq_iff.mp hlocation
    obtain ⟨-, more, hother⟩ := Text.dropTrailing_eq_iff.mp
      (rfl : Text.dropTrailing '/' other = _)
    exact ⟨_, count, more, hurl, hother⟩
  · rintro ⟨rest, count, more, hurl, hother⟩
    rw [ofUrl_eq_of_append hurl, ofUrl_eq_of_append hother]

/-- The URL of a repository is that of the same repository. -/
theorem ofUrl_location_ofUrl (url : String) : ofUrl (ofUrl url).location = ofUrl url := by
  obtain ⟨-, count, hurl⟩ := Text.dropTrailing_eq_iff.mp
    (rfl : Text.dropTrailing '/' url = (ofUrl url).location)
  have hsame := ofUrl_eq_of_append hurl
  rw [String.ofList_toList] at hsame
  exact hsame.symm

/-- The repository of a URL is blank when there are only blanks in front of the slashes. -/
theorem trim_location_ofUrl {blanks : List Char} {count : Nat}
    (h : url.toList = blanks ++ List.replicate count '/')
    (hblanks : ∀ c ∈ blanks, Text.isBlank c = true) : Text.trim (ofUrl url).location = "" := by
  have hlocation : (ofUrl url).location = String.ofList blanks := by
    refine Text.dropTrailing_eq_iff.mpr ⟨?_, count, ?_⟩
    · rw [String.toList_ofList]
      intro hlast
      have hslash := hblanks '/' (List.mem_of_getLast? hlast)
      revert hslash
      decide
    · rw [String.toList_ofList, h]
  rw [← Text.blank_iff_trim_eq_empty, Text.blank, hlocation, String.toList_ofList,
    List.all_eq_true]
  exact hblanks

end Repository

/-- A URL is declared at its position. -/
theorem declared_of_givesUrl (hread : Declaration.ofFields (.ofEntries document) = .ok declaration)
    (h : GivesUrl document scope position url) :
    (declaration.repositories scope)[position]? = some (.ofUrl url) := by
  obtain ⟨entry, hentry, hholds⟩ := h
  obtain ⟨repository, hrepository, hvalue⟩ := declared_of_entryAt hread hentry
  rw [Repository.reads _ _ hholds] at hvalue
  obtain rfl := Except.ok.inj hvalue
  exact hrepository

/-- A URL in a document that is read and resolves is one in the workspace: it stands in the same
list at the same position, has the slashes at its end dropped, and is not blank. If it is
blank without these slashes, the document does not resolve. A text is read as the document
that it spells. The slashes are dropped once and for all, and two URLs that differ in nothing
else are of one repository. -/
theorem url_repositories_are_normalised :
    (∀ document declaration workspace,
      Declaration.ofFields (.ofEntries document) = .ok declaration →
      declaration.resolve = .ok workspace →
      ∀ scope position url, GivesUrl document scope position url →
        ∃ repository, (workspace.repositories scope)[position]? = some repository ∧
          (RepositoryEntry.table url).Denotes repository ∧
          Text.trim repository.location ≠ "" ∧ repository.url? = some repository.location) ∧
    (∀ document declaration, Declaration.ofFields (.ofEntries document) = .ok declaration →
      ∀ scope position url blanks count, GivesUrl document scope position url →
        url.toList = blanks ++ List.replicate count '/' →
        (∀ c ∈ blanks, Text.isBlank c = true) → ∃ error, declaration.resolve = .error error) ∧
    (∀ text document declaration, Toml.document? text = some document →
      (Declaration.ofText text = .ok declaration ↔
        Declaration.ofFields (.ofEntries document) = .ok declaration)) ∧
    (∀ url, Repository.ofUrl (Repository.ofUrl url).location = Repository.ofUrl url) ∧
    ∀ url other, Repository.ofUrl url = Repository.ofUrl other ↔ ∃ rest count more,
      url.toList = rest ++ List.replicate count '/' ∧
        other.toList = rest ++ List.replicate more '/' := by
  refine ⟨?_, ?_, ?_, Repository.ofUrl_location_ofUrl, fun _ _ => Repository.ofUrl_eq_ofUrl_iff⟩
  · intro document declaration workspace hread hresolve scope position url hurl
    obtain ⟨hkeeps, rfl⟩ := Declaration.resolve_eq_ok_iff_keeps.mp hresolve
    have hposition := declared_of_givesUrl hread hurl
    refine ⟨.ofUrl url, ?_, RepositoryEntry.denotes_iff.mpr rfl, ?_, rfl⟩
    · rw [Declaration.repositories_assemble, hposition]
    · exact hkeeps (.locations scope) _ (List.mem_of_getElem? hposition)
  · intro document declaration hread scope position url blanks count hurl hslashes hblanks
    have hposition := declared_of_givesUrl hread hurl
    cases hresolve : declaration.resolve with
    | error error => exact ⟨error, rfl⟩
    | ok workspace =>
        have hkeeps := (Declaration.resolve_eq_ok_iff_keeps.mp hresolve).1 (.locations scope)
        exact absurd (Repository.trim_location_ofUrl hslashes hblanks)
          (hkeeps _ (List.mem_of_getElem? hposition))
  · intro text document declaration htext
    rw [Declaration.ofText, Shape.readDocument_eq_ok_iff, htext]
    simp only [Option.some.injEq, exists_eq_left']

/-- A document with a URL behind a well-known repository. Its section is the list of its fields. -/
def linkingDocument (url : String) : List (String × Value) :=
  [("dependency-resolution", .array [.array [.string "google", .table [("url", .string url)]]]),
   ("project", .table [("name", .string "Demo")])]

theorem linkingDocument_givesUrl (url : String) :
    GivesUrl (linkingDocument url) .dependency 1 url :=
  ⟨_, .intro rfl (.listed (.bracketed _)) (.bracketed _) rfl, _, rfl, rfl⟩

theorem linkingDocument_normalised :
    (∃ declaration workspace,
      Declaration.ofFields (.ofEntries (linkingDocument "https://jitpack.io//")) =
        .ok declaration ∧
      declaration.resolve = .ok workspace ∧
      ∃ repository, (workspace.repositories .dependency)[1]? = some repository ∧
        (RepositoryEntry.table "https://jitpack.io//").Denotes repository ∧
        repository.url? = some "https://jitpack.io") ∧
    ∃ declaration error,
      Declaration.ofFields (.ofEntries (linkingDocument " //")) = .ok declaration ∧
        declaration.resolve = .error error := by
  obtain ⟨hresolves, hfails, -⟩ := url_repositories_are_normalised
  refine ⟨⟨_, _, rfl, rfl, ?_⟩, ?_⟩
  · obtain ⟨repository, hposition, hdenotes, -⟩ :=
      hresolves _ _ _ rfl rfl _ _ _ (linkingDocument_givesUrl "https://jitpack.io//")
    refine ⟨repository, hposition, hdenotes, ?_⟩
    obtain rfl := Option.some.inj hposition
    decide
  · have hblank : ∀ c ∈ [' '], Text.isBlank c = true := by
      intro c hc
      rw [List.mem_singleton.mp hc]
      rfl
    obtain ⟨error, herror⟩ :=
      hfails _ _ rfl _ _ _ [' '] 2 (linkingDocument_givesUrl " //") (by decide) hblank
    exact ⟨_, error, rfl, herror⟩

end BuildSettings
