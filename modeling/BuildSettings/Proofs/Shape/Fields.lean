/-
# Reading sections field by field

A section is read by putting the parts for its fields together. Every part is a
step of reading that counts at the place of its field in the document; a part
that cannot fail leaves the others as they are. The lemmas on parts let a section
be read by rewriting, one field after the other.

What stands in a document is described apart from any reader: a value is a list
of some items, a table lists items under a key, a table has a section under a
key. Lists and sections that are left out are empty, and that is how they read.
-/

import BuildSettings.Proofs.FirstFault
import BuildSettings.Shape.Document

namespace BuildSettings.Shape

open Toml (Value)

variable {α β : Type}

namespace Part

/-- A step of reading as the part that counts at a place. -/
def ofExcept (place : Nat) : Except ShapeError α → Part α
  | .ok value => .read value
  | .error error => .fault place error

@[simp]
theorem ofExcept_ok (place : Nat) (value : α) : ofExcept place (.ok value) = read value := rfl

@[simp]
theorem map_read (f : α → β) (value : α) : f <$> read value = read (f value) := rfl

@[simp]
theorem read_seq_read (f : α → β) (value : α) : read f <*> read value = read (f value) := rfl

@[simp]
theorem read_seq_ofExcept (f : α → β) (place : Nat) (step : Except ShapeError α) :
    read f <*> ofExcept place step = ofExcept place (step.map f) := by
  cases step <;> rfl

@[simp]
theorem result_read (value : α) : (read value).result = .ok value := rfl

@[simp]
theorem result_ofExcept (place : Nat) (step : Except ShapeError α) :
    (ofExcept place step).result = step := by
  cases step <;> rfl

theorem seq_eq_read_iff {f : Part (α → β)} {x : Part α} {result : β} :
    f <*> x = read result ↔ ∃ g value, f = read g ∧ x = read value ∧ g value = result := by
  cases f with
  | read g =>
      cases x with
      | read value => simp
      | fault place error => exact iff_of_false nofun (by simp)
  | fault place error =>
      refine iff_of_false ?_ (by simp)
      intro h
      cases x with
      | read value => cases h
      | fault later other =>
          simp only [Seq.seq, both] at h
          split at h <;> cases h

theorem map_eq_read_iff {f : α → β} {x : Part α} {result : β} :
    f <$> x = read result ↔ ∃ value, x = read value ∧ f value = result := by
  cases x with
  | read value => simp
  | fault place error => exact iff_of_false nofun (by simp)

theorem result_eq_ok_iff {x : Part α} {result : α} : x.result = .ok result ↔ x = read result := by
  cases x <;> simp [Part.result]

end Part

/-! ## What stands in a document -/

/-- A value is a list of these items, however it is written. -/
inductive IsList : Value → List Value → Prop
  | bracketed (items : List Value) : IsList (.array items) items
  | headed (elements : List (List (String × Value))) :
      IsList (.tables elements) (elements.map .table)

theorem IsList.items? {value : Value} {items : List Value} (h : IsList value items) :
    value.items? = some items := by
  cases h <;> rfl

/-- A table lists items under a key, each of them held by a value of its own.
Without the key the table lists none. -/
def ListsUnder (holds : α → Value → Prop) (table : List (String × Value)) (key : String)
    (items : List α) : Prop :=
  ∃ values, List.Forall₂ holds items values ∧
    ((∃ value, table.lookup key = some value ∧ IsList value values) ∨
      table.lookup key = none ∧ values = [])

/-- A table has a section under a key. A section that is left out is empty. -/
def SectionUnder (table : List (String × Value)) (key : String)
    (sect : List (String × Value)) : Prop :=
  table.lookup key = some (.table sect) ∨ table.lookup key = none ∧ sect = []

/-! ## How it is read -/

/-- A reader makes of every value that holds an item what the step makes of the item. -/
def Reads (reader : Value → Except ShapeError α) (holds : β → Value → Prop)
    (step : β → Except ShapeError α) : Prop :=
  ∀ item value, holds item value → reader value = step item

namespace Fields

variable {fields : Fields} {key : String} {reader : Value → Except ShapeError α} {value : Value}

/-- A field that is given is read, and counts at its place in the document. -/
theorem part_of_lookup {absent : Part α} (h : fields.entries.lookup key = some value) :
    fields.part key reader absent =
      .ofExcept (fields.entries.findIdx (·.1 == key)) (reader value) := by
  rw [part, h]
  dsimp only
  cases reader value <;> rfl

theorem part_of_absent {absent : Part α} (h : fields.entries.lookup key = none) :
    fields.part key reader absent = absent := by
  rw [part, h]

/-- A field that need not be given is left out, or it is there and can be read. -/
theorem optional_eq_read_iff {default result : α} :
    fields.optional key reader default = .read result ↔
      (fields.entries.lookup key = none ∧ default = result) ∨
        ∃ value, fields.entries.lookup key = some value ∧ reader value = .ok result := by
  cases hlookup : fields.entries.lookup key with
  | none =>
      rw [optional, part_of_absent hlookup]
      simp
  | some value =>
      rw [optional, part_of_lookup hlookup]
      cases hread : reader value <;> simp [Part.ofExcept, hread]

/-- A list of items is read item by item. -/
theorem optional_list {holds : β → Value → Prop} {step : β → Except ShapeError α}
    {items : List β} (h : ListsUnder holds fields.entries key items)
    (hreads : Reads reader holds step) :
    fields.optional key (list reader) [] =
      .ofExcept (fields.entries.findIdx (·.1 == key)) (items.mapM step) := by
  obtain ⟨values, hvalues, hlist⟩ := h
  rcases hlist with ⟨value, hlookup, hlist⟩ | ⟨hlookup, rfl⟩
  · rw [optional, part_of_lookup hlookup, list, hlist.items?]
    dsimp only
    rw [mapM_congr_forall₂ hreads hvalues]
  · cases hvalues
    exact part_of_absent hlookup

/-- A list of items that can always be read is read whole. -/
theorem optional_list_of_ok {holds : β → Value → Prop} {read : β → α} {items : List β}
    (h : ListsUnder holds fields.entries key items)
    (hreads : Reads reader holds fun item => .ok (read item)) :
    fields.optional key (list reader) [] = .read (items.map read) := by
  rw [optional_list h hreads]
  show Part.ofExcept _ (items.mapM fun item => pure (read item)) = _
  rw [List.mapM_pure]
  rfl

/-- A section is read as it stands, and one that is left out like an empty one. -/
theorem optional_section {sect : List (String × Value)} {default : α}
    (h : SectionUnder fields.entries key sect) (hempty : reader (.table []) = .ok default) :
    fields.optional key reader default =
      .ofExcept (fields.entries.findIdx (·.1 == key)) (reader (.table sect)) := by
  rcases h with hlookup | ⟨hlookup, rfl⟩
  · exact part_of_lookup hlookup
  · rw [hempty]
    exact part_of_absent hlookup

end Fields

/-! ## Documents -/

variable {reader : Fields → Except ShapeError α} {text : String} {result : α}
  {document : List (String × Value)}

/-- A text is read as the document that it spells, and a fault of the document is reported
with the text. -/
theorem readDocument_of_document (h : Toml.document? text = some document) :
    readDocument reader text = (reader (.ofEntries document)).mapError (.misshapen text) := by
  rw [readDocument, h]
  dsimp only
  cases reader (.ofEntries document) <;> rfl

/-- What is read from a text is what is read from its document. -/
theorem readDocument_eq_ok_iff :
    readDocument reader text = .ok result ↔
      ∃ document, Toml.document? text = some document ∧
        reader (.ofEntries document) = .ok result := by
  cases h : Toml.document? text with
  | none => simp [readDocument, h]
  | some document => simp [readDocument_of_document h, mapError_eq_ok_iff]

end BuildSettings.Shape
