/-
# The presentation of settings documents

What a settings document declares does not depend on how it is presented. The keys of its
tables may stand in any order, keys that mean nothing may come and go, and a section may
be written as the list of its fields, from the first to the last that is given. This holds
at every place, under keys that mean nothing as well, and for any number of changes.

The layout of a settings document says which keys mean something and which sections may be
written as lists: all but the document itself and the table of a repository.
-/

import BuildSettings.Proofs.Shape.Layout
import BuildSettings.Settings

namespace BuildSettings

open Shape (Fields FieldsRewrite Layout Respects Rewrites not_rewrites_string)
open Toml (Value)

/-! ## The layout of a settings document -/

/-- A repository in a table. -/
def Repository.layout : Layout :=
  .record [("url", .any)] false

/-- The declaration of a catalog. -/
def CatalogDeclaration.layout : Layout :=
  .record [("name", .any), ("from", .any)] true

/-- The section about the root project. -/
def ProjectSection.layout : Layout :=
  .record [("name", .any), ("features", .any), ("include", .any)] true

/-- The section about plugins. -/
def PluginSection.layout : Layout :=
  .record [("repositories", .list Repository.layout), ("include-builds", .any)] true

/-- The section about dependencies. -/
def dependencySectionLayout : Layout :=
  .record [("repositories", .list Repository.layout)] true

/-- The fields of a settings document. -/
def Declaration.fieldLayouts : List (String × Layout) :=
  [("project", ProjectSection.layout), ("plugin-management", PluginSection.layout),
    ("dependency-resolution", dependencySectionLayout),
    ("catalogs", .list CatalogDeclaration.layout)]

/-- A settings document. -/
def Declaration.layout : Layout :=
  .record Declaration.fieldLayouts false

/-! ## Reading what is rewritten -/

section Items

variable {layout : Layout}

/-- Nothing can be rewritten in a text. -/
theorem respects_of_string {α : Type} {reader : Value → Except ShapeError α}
    (h : ∀ value result, reader value = .ok result → ∃ text, value = .string text) :
    Respects layout reader := by
  intro value other hrewrites result hread
  obtain ⟨text, rfl⟩ := h value result hread
  exact absurd hrewrites not_rewrites_string

theorem exists_string_of_text {value : Value} {result : String}
    (h : Shape.text value = .ok result) : ∃ text, value = .string text := by
  cases value with
  | string text => exact ⟨text, rfl⟩
  | _ => cases h

theorem respects_text : Respects layout Shape.text :=
  respects_of_string fun _ _ h => exists_string_of_text h

theorem respects_path : Respects layout Shape.path := by
  apply respects_of_string
  intro value result h
  cases value with
  | string text => exact ⟨text, rfl⟩
  | _ => cases h

theorem ModulePath.respects : Respects layout ModulePath.ofValue := by
  apply respects_of_string
  intro value result h
  obtain ⟨raw, hraw, -⟩ := bind_eq_ok_iff.mp h
  exact exists_string_of_text hraw

/-- A table that names a feature flag has one key and nothing under it, so there is nothing
to be rewritten. -/
theorem Feature.respects : Respects .any Feature.ofValue := by
  intro value other h flag hread
  cases value with
  | string name => exact absurd h not_rewrites_string
  | table entries =>
      match entries with
      | [] => cases hread
      | _ :: _ :: _ => cases hread
      | [(name, payload)] =>
          obtain ⟨named, hnamed, hpayload⟩ := bind_eq_ok_iff.mp hread
          rcases Shape.eq_or_under_of_rewrites_singleton h with rfl | ⟨payload', hpayload', rfl⟩
          · exact hread
          · refine bind_eq_ok_iff.mpr ⟨named, hnamed, ?_⟩
            match payload with
            | .table [] =>
                rw [Shape.eq_of_rewrites_no_entries hpayload']
                exact hpayload
            | .array [] | .tables [] => exact absurd hpayload' (Shape.not_rewrites_of_no_items rfl)
            | .table (_ :: _) | .array (_ :: _) | .tables (_ :: _) => cases hpayload
            | .string _ | .integer _ | .float _ | .boolean _ | .dateTime _ => cases hpayload
  | _ => cases hread

/-- A table is a repository when it has a text under `url`. -/
theorem Repository.ofValue_table_eq_ok_iff {entries : List (String × Value)}
    {repository : Repository} :
    ofValue (.table entries) = .ok repository ↔
      ∃ url, entries.lookup "url" = some (.string url) ∧ ofUrl url = repository := by
  simp only [ofValue, Shape.form, ofValue?, Shape.textField?]
  cases entries.lookup "url" with
  | none => simp
  | some value => cases value <;> simp

theorem Repository.respects : Respects Repository.layout Repository.ofValue := by
  intro value other h repository hread
  cases value with
  | string name => exact absurd h not_rewrites_string
  | table entries =>
      obtain ⟨url, hurl, hrepository⟩ := ofValue_table_eq_ok_iff.mp hread
      rcases h.record_cases with ⟨others, rfl, hfields⟩ | ⟨values, hlisted, -⟩
      · exact ofValue_table_eq_ok_iff.mpr ⟨url, hfields.lookup_string rfl hurl, hrepository⟩
      · cases hlisted
  | _ => cases hread

end Items

theorem CatalogDeclaration.respects :
    Respects CatalogDeclaration.layout CatalogDeclaration.ofValue :=
  Respects.record fun _ _ h =>
    ((Fields.keeps_required h rfl respects_text).map _).seq
      (Fields.keeps_required h rfl respects_path)

theorem ProjectSection.respects : Respects ProjectSection.layout ProjectSection.ofValue :=
  Respects.record fun _ _ h =>
    (((Fields.keeps_required h rfl respects_text).map _).seq
      (Fields.keeps_optional h rfl Feature.respects.list_any [])).seq
        (Fields.keeps_optional h rfl ModulePath.respects.list_any [])

theorem PluginSection.respects : Respects PluginSection.layout PluginSection.ofValue :=
  Respects.record fun _ _ h =>
    ((Fields.keeps_optional h rfl Repository.respects.list_item []).map _).seq
      (Fields.keeps_optional h rfl respects_path.list_any [])

theorem respects_dependencyRepositories :
    Respects dependencySectionLayout dependencyRepositoriesOfValue :=
  Respects.record fun _ _ h =>
    Fields.keeps_optional h rfl Repository.respects.list_item []

namespace Declaration

variable {document : List (String × Value)} {declared : Declaration} {tree : Value}

/-- A document is read section by section. -/
theorem ofFields_of_fieldsRewrite {others : List (String × Value)}
    (h : FieldsRewrite fieldLayouts document others)
    (hread : ofFields (.ofEntries document) = .ok declared) :
    ofFields (.ofEntries others) = .ok declared := by
  have hfields : FieldsRewrite fieldLayouts (Fields.ofEntries document).entries
      (Fields.ofEntries others).entries := h
  refine Shape.Part.Keeps.result ?_ hread
  exact ((((Fields.keeps_required hfields rfl ProjectSection.respects).map ofSections).seq
    (Fields.keeps_optional hfields rfl PluginSection.respects {})).seq
      (Fields.keeps_optional hfields rfl respects_dependencyRepositories [])).seq
        (Fields.keeps_optional hfields rfl CatalogDeclaration.respects.list_item [])

/-- A settings document that is rewritten in any number of places, in any of the ways that
`Rewrites` lists, is a document again, and it is read as the same declaration. So is every
text that spells it. -/
theorem presentation_does_not_matter
    (hrewrites : Relation.ReflTransGen (Rewrites layout) (.table document) tree)
    (hread : ofFields (.ofEntries document) = .ok declared) :
    ∃ others, tree = .table others ∧ ofFields (.ofEntries others) = .ok declared ∧
      ∀ text, Toml.document? text = some others → ofText text = .ok declared := by
  have hothers : ∃ others, tree = .table others ∧
      ofFields (.ofEntries others) = .ok declared := by
    induction hrewrites with
    | refl => exact ⟨document, rfl, hread⟩
    | tail _ hstep ih =>
        obtain ⟨entries, rfl, hentries⟩ := ih
        rcases hstep.record_cases with ⟨others, rfl, hfields⟩ | ⟨values, hlisted, -⟩
        · exact ⟨others, rfl, ofFields_of_fieldsRewrite hfields hentries⟩
        · cases hlisted
  obtain ⟨others, rfl, hothers⟩ := hothers
  exact ⟨others, rfl, hothers, fun text htext =>
    Shape.readDocument_eq_ok_iff.mpr ⟨others, htext, hothers⟩⟩

/-- A document with a module and a catalog. -/
def plainDocument : List (String × Value) :=
  [("project", .table [("name", .string "Demo"), ("include", .array [.string "app"])]),
   ("catalogs", .tables [[("from", .string "libs.toml"), ("name", .string "libs")]])]

/-- The same with another key, with the keys of the project in another order, and with the
catalog as a list. -/
def presentedDocument : List (String × Value) :=
  [("project", .table [("include", .array [.string "app"]), ("name", .string "Demo")]),
   ("owner", .integer 1),
   ("catalogs", .array [.array [.string "libs", .string "libs.toml"]])]

theorem plainDocument_rewrites :
    Relation.ReflTransGen (Rewrites layout) (.table plainDocument) (.table presentedDocument) := by
  have hproject : Rewrites ProjectSection.layout
      (.table [("name", .string "Demo"), ("include", .array [.string "app"])])
      (.table [("include", .array [.string "app"]), ("name", .string "Demo")]) :=
    .permute (by decide) (.swap ..)
  have hcatalog : Rewrites CatalogDeclaration.layout
      (.table [("from", .string "libs.toml"), ("name", .string "libs")])
      (.array [.string "libs", .string "libs.toml"]) :=
    @Rewrites.enlist [("name", .any), ("from", .any)] [] _ _ (.cons rfl (.cons rfl .nil)) (by simp)
  have hcatalogs : Rewrites (.list CatalogDeclaration.layout)
      (.tables [[("from", .string "libs.toml"), ("name", .string "libs")]])
      (.array [.array [.string "libs", .string "libs.toml"]]) :=
    @Rewrites.item _ _ _ [] [] _ _ rfl rfl hcatalog
  exact .head (@Rewrites.under layout [] _ "project" _ _ hproject)
    (.head (@Rewrites.add fieldLayouts false [_] [_] "owner" (.integer 1) rfl)
      (.single (@Rewrites.under layout [_, _] [] "catalogs" _ _ hcatalogs)))

theorem plainDocument_presented :
    ∃ declared, ofFields (.ofEntries plainDocument) = .ok declared ∧
      ofFields (.ofEntries presentedDocument) = .ok declared := by
  have hread : ∃ declared, ofFields (.ofEntries plainDocument) = .ok declared := ⟨_, rfl⟩
  obtain ⟨declared, hdeclared⟩ := hread
  obtain ⟨others, hothers, hpresented, -⟩ :=
    presentation_does_not_matter plainDocument_rewrites hdeclared
  obtain rfl := Value.table.inj hothers
  exact ⟨declared, hdeclared, hpresented⟩

end Declaration

end BuildSettings
