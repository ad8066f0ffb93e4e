/-
# Rewriting documents

There are several ways to write down the same section: the keys of its table in another
order, with or without keys that nobody asks for, or without keys at all, as the list of
its fields. `Rewrites` has one case for each of these, and two that carry a rewriting to
a place inside a table or a list. What may be done at a place is told by its layout.

A reader respects a layout when it reads a value and whatever the value is rewritten to
alike. Readers of lists and of sections respect a layout when the readers of their items
and fields do, so this is proved once for every way of putting readers together.
-/

import Mathlib.Data.Option.Defs
import Mathlib.Logic.Relation
import BuildSettings.Proofs.NameMap
import BuildSettings.Proofs.Shape.Fields

namespace BuildSettings.Shape

open Toml (Value)
open Relation (ReflGen)

/-! ## Layouts -/

/-- What stands at a place of a document. -/
inductive Layout
  /-- Nothing is known about the place. -/
  | any
  /-- A list whose items all have the same layout. -/
  | list (item : Layout)
  /-- A section with its fields in order. Most sections may be written as a list as well. -/
  | record (fields : List (String × Layout)) (listed : Bool)

namespace Layout

/-- The layout under a key. -/
def under (key : String) : Layout → Layout
  | .record fields _ => (fields.lookup key).getD .any
  | .any | .list _ => .any

/-- The layout of an item of a list. -/
def item (index : Nat) : Layout → Layout
  | .list item => item
  | .record fields _ => (fields[index]?.map Prod.snd).getD .any
  | .any => .any

end Layout

/-- A value is rewritten in one place. -/
inductive Rewrites : Layout → Value → Value → Prop
  /-- The keys of a table, which are all different, are put in another order. -/
  | permute {layout : Layout} {entries others : List (String × Value)} :
      (entries.map Prod.fst).Nodup → entries.Perm others →
      Rewrites layout (.table entries) (.table others)
  /-- A key is added that is no field of the section. -/
  | add {fields : List (String × Layout)} {listed : Bool} {before after : List (String × Value)}
      {key : String} {value : Value} : fields.lookup key = none →
      Rewrites (.record fields listed) (.table (before ++ after))
        (.table (before ++ (key, value) :: after))
  /-- A key is removed that is no field of the section. -/
  | remove {fields : List (String × Layout)} {listed : Bool} {before after : List (String × Value)}
      {key : String} {value : Value} : fields.lookup key = none →
      Rewrites (.record fields listed) (.table (before ++ (key, value) :: after))
        (.table (before ++ after))
  /-- A section is written as the list of its fields, when none is left out before another. -/
  | enlist {given absent : List (String × Layout)} {entries : List (String × Value)}
      {values : List Value} :
      List.Forall₂ (fun field value => entries.lookup field.1 = some value) given values →
      (∀ field ∈ absent, entries.lookup field.1 = none) →
      Rewrites (.record (given ++ absent) true) (.table entries) (.array values)
  /-- The value under a key is rewritten. -/
  | under {layout : Layout} {before after : List (String × Value)} {key : String}
      {value other : Value} : Rewrites (layout.under key) value other →
      Rewrites layout (.table (before ++ (key, value) :: after))
        (.table (before ++ (key, other) :: after))
  /-- An item of a list is rewritten. A list of tables with headers may become an array. -/
  | item {layout : Layout} {list list' : Value} {before after : List Value}
      {value other : Value} : list.items? = some (before ++ value :: after) →
      list'.items? = some (before ++ other :: after) →
      Rewrites (layout.item before.length) value other → Rewrites layout list list'

/-- A reader reads what a value is rewritten to as it reads the value. -/
def Respects {α : Type} (layout : Layout) (reader : Value → Except ShapeError α) : Prop :=
  ∀ value other, Rewrites layout value other →
    ∀ result, reader value = .ok result → reader other = .ok result

variable {α β : Type} {layout : Layout} {value other : Value}

theorem not_rewrites_string {text : String} : ¬ Rewrites layout (.string text) other := by
  intro h
  cases h with
  | item hitems => cases hitems

/-- Nothing can be rewritten within an empty list. -/
theorem not_rewrites_of_no_items (hvalue : value.items? = some []) :
    ¬ Rewrites layout value other := by
  intro h
  cases h with
  | item hitems => simp [hvalue] at hitems
  | _ => cases hvalue

/-- Nothing can be rewritten within an empty table of which nothing is known. -/
theorem eq_of_rewrites_no_entries (h : Rewrites .any (.table []) other) : other = .table [] := by
  generalize hvalue : Value.table [] = value at h
  cases h with
  | permute hnodup hperm =>
      obtain rfl := Value.table.inj hvalue
      rw [hperm.nil_eq]
  | under => simp at hvalue
  | item hitems =>
      subst hvalue
      cases hitems

/-- A table with one key, of which nothing is known, stays as it is or is rewritten under it. -/
theorem eq_or_under_of_rewrites_singleton {key : String}
    (h : Rewrites .any (.table [(key, value)]) other) :
    other = .table [(key, value)] ∨
      ∃ value', Rewrites .any value value' ∧ other = .table [(key, value')] := by
  generalize htable : Value.table [(key, value)] = table at h
  cases h with
  | permute hnodup hperm =>
      obtain rfl := Value.table.inj htable
      exact .inl (congrArg Value.table (List.perm_singleton.mp hperm.symm))
  | @under layout before after key' old new hunder =>
      have hentries := Value.table.inj htable
      cases before with
      | nil =>
          obtain ⟨hentry, rfl⟩ := List.cons.inj hentries
          obtain ⟨rfl, rfl⟩ := Prod.mk.inj hentry
          exact .inr ⟨_, hunder, rfl⟩
      | cons first before => simp at hentries
  | item hitems =>
      subst htable
      cases hitems

/-! ## Lists -/

/-- Of two lists that stand for each other, an item can be replaced by one that stands for
the same. -/
theorem forall₂_replace {standsFor : α → β → Prop} {before after : List α} {x y : α}
    {results : List β} (hxy : ∀ result, standsFor x result → standsFor y result)
    (h : List.Forall₂ standsFor (before ++ x :: after) results) :
    List.Forall₂ standsFor (before ++ y :: after) results := by
  induction before generalizing results with
  | nil =>
      cases h with
      | cons hhead htail => exact .cons (hxy _ hhead) htail
  | cons z before ih =>
      cases h with
      | cons hhead htail => exact .cons hhead (ih htail)

/-- Lists are read item by item. -/
theorem Respects.list {reader : Value → Except ShapeError α}
    (hreader : ∀ index, Respects (layout.item index) reader) :
    Respects layout (Shape.list reader) := by
  intro value other h results hread
  cases h with
  | item hitems hitems' hrewrites =>
      simp only [Shape.list, hitems, hitems', mapM_eq_ok_iff] at hread ⊢
      exact forall₂_replace (hreader _ _ _ hrewrites) hread
  | _ => cases hread

theorem Respects.list_item {reader : Value → Except ShapeError α} (h : Respects layout reader) :
    Respects (.list layout) (Shape.list reader) :=
  Respects.list fun _ => h

theorem Respects.list_any {reader : Value → Except ShapeError α} (h : Respects .any reader) :
    Respects .any (Shape.list reader) :=
  Respects.list fun _ => h

/-! ## Fields -/

/-- The fields of a section are given as before, or what is given is rewritten. -/
def FieldsRewrite (fields : List (String × Layout)) (old new : List (String × Value)) : Prop :=
  ∀ key layout, fields.lookup key = some layout →
    Option.Rel (ReflGen (Rewrites layout)) (old.lookup key) (new.lookup key)

section Fields

variable {fields : List (String × Layout)} {listed : Bool} {old new entries : List (String × Value)}
  {items : List Value}

theorem optionRel_refl (field? : Option Value) :
    Option.Rel (ReflGen (Rewrites layout)) field? field? := by
  cases field? with
  | none => exact .none
  | some value => exact .some .refl

theorem FieldsRewrite.of_lookup_eq
    (h : ∀ key layout, fields.lookup key = some layout → new.lookup key = old.lookup key) :
    FieldsRewrite fields old new := by
  intro key layout hkey
  rw [h key layout hkey]
  exact optionRel_refl _

/-- A text in a field stays as it is. -/
theorem FieldsRewrite.lookup_string (h : FieldsRewrite fields old new) {key text : String}
    (hkey : fields.lookup key = some layout) (hold : old.lookup key = some (.string text)) :
    new.lookup key = some (.string text) := by
  have hrel := h key layout hkey
  rw [hold] at hrel
  generalize hnew : new.lookup key = value? at hrel
  cases hrel with
  | some hrewrites =>
      cases hrewrites with
      | refl => rfl
      | single hsingle => exact absurd hsingle not_rewrites_string

theorem lookup_insert {before after : List (String × α)} {key added : String} {value : α}
    (hne : key ≠ added) :
    (before ++ (added, value) :: after).lookup key = (before ++ after).lookup key := by
  rw [List.lookup_append, List.lookup_append, List.lookup_cons, beq_eq_false_iff_ne.mpr hne]

/-- A list that gives the fields in their order gives the same fields as the table. -/
theorem lookup_zip_of_forall₂ {given absent : List (String × Layout)} {values : List Value}
    (hgiven : List.Forall₂ (fun field value => entries.lookup field.1 = some value) given values)
    (habsent : ∀ field ∈ absent, entries.lookup field.1 = none) {key : String}
    (hkey : (given ++ absent).lookup key = some layout) :
    (((given ++ absent).map Prod.fst).zip values).lookup key = entries.lookup key := by
  induction hgiven with
  | nil =>
      obtain ⟨before, after, rfl, -⟩ := List.lookup_eq_some_iff.mp hkey
      rw [List.zip_nil_right, habsent (key, layout) (by simp)]
      rfl
  | @cons field value given values hhead _ ih =>
      rw [List.cons_append, List.map_cons, List.zip_cons_cons, List.lookup_cons]
      rw [List.cons_append, List.lookup_cons] at hkey
      cases heq : key == field.1 with
      | true => rw [beq_iff_eq.mp heq, hhead]
      | false =>
          rw [heq] at hkey
          exact ih hkey

/-- An item that is rewritten is the field that stands at its place. -/
theorem fieldsRewrite_zip {before after : List Value}
    (h : Rewrites ((Layout.record fields listed).item before.length) value other) :
    FieldsRewrite fields ((fields.map Prod.fst).zip (before ++ value :: after))
      ((fields.map Prod.fst).zip (before ++ other :: after)) := by
  intro key layout hkey
  induction fields generalizing before with
  | nil => cases hkey
  | cons field rest ih =>
      rw [List.lookup_cons] at hkey
      cases before with
      | nil =>
          simp only [List.nil_append, List.map_cons, List.zip_cons_cons, List.lookup_cons]
          cases heq : key == field.1 with
          | false => exact optionRel_refl _
          | true =>
              rw [heq] at hkey
              obtain rfl := Option.some.inj hkey
              exact .some (.single h)
      | cons first before =>
          simp only [List.cons_append, List.map_cons, List.zip_cons_cons, List.lookup_cons]
          cases heq : key == field.1 with
          | true => exact optionRel_refl _
          | false =>
              rw [heq] at hkey
              exact ih (by simpa [Layout.item] using h) hkey

theorem fieldsRewrite_under {before after : List (String × Value)} {key : String}
    (h : Rewrites ((Layout.record fields listed).under key) value other) :
    FieldsRewrite fields (before ++ (key, value) :: after) (before ++ (key, other) :: after) := by
  intro key' layout hkey'
  simp only [List.lookup_append, List.lookup_cons]
  cases heq : key' == key with
  | false => exact optionRel_refl _
  | true =>
      obtain rfl := beq_iff_eq.mp heq
      rw [Layout.under, hkey', Option.getD_some] at h
      cases before.lookup key' with
      | some first => exact optionRel_refl _
      | none => exact .some (.single h)

/-- A section in a table is rewritten to a table, or to the list of its fields. -/
theorem Rewrites.record_cases (h : Rewrites (.record fields listed) (.table entries) other) :
    (∃ others, other = .table others ∧ FieldsRewrite fields entries others) ∨
      ∃ values, listed = true ∧ other = .array values ∧
        FieldsRewrite fields entries ((fields.map Prod.fst).zip values) := by
  generalize hvalue : Value.table entries = value at h
  generalize hlayout : Layout.record fields listed = layout at h
  cases h with
  | permute hnodup hperm =>
      obtain rfl := Value.table.inj hvalue
      refine .inl ⟨_, rfl, .of_lookup_eq fun key _ _ =>
        NameMap.lookup_eq_of_perm hperm hnodup key⟩
  | add hadded =>
      obtain rfl := Value.table.inj hvalue
      obtain ⟨rfl, rfl⟩ := Layout.record.inj hlayout
      refine .inl ⟨_, rfl, .of_lookup_eq fun key layout hkey => lookup_insert ?_⟩
      rintro rfl
      rw [hadded] at hkey
      cases hkey
  | remove hremoved =>
      obtain rfl := Value.table.inj hvalue
      obtain ⟨rfl, rfl⟩ := Layout.record.inj hlayout
      refine .inl ⟨_, rfl, .of_lookup_eq fun key layout hkey => (lookup_insert ?_).symm⟩
      rintro rfl
      rw [hremoved] at hkey
      cases hkey
  | enlist hgiven habsent =>
      obtain rfl := Value.table.inj hvalue
      obtain ⟨rfl, rfl⟩ := Layout.record.inj hlayout
      exact .inr ⟨_, rfl, rfl, .of_lookup_eq fun key layout hkey =>
        lookup_zip_of_forall₂ hgiven habsent hkey⟩
  | under hunder =>
      obtain rfl := Value.table.inj hvalue
      subst hlayout
      exact .inl ⟨_, rfl, fieldsRewrite_under hunder⟩
  | item hitems =>
      subst hvalue
      cases hitems

/-- A section in a list is rewritten to a list. -/
theorem Rewrites.record_items_cases (h : Rewrites (.record fields listed) value other)
    (hitems : value.items? = some items) :
    ∃ others, other.items? = some others ∧
      FieldsRewrite fields ((fields.map Prod.fst).zip items)
        ((fields.map Prod.fst).zip others) := by
  cases h with
  | item hvalue hother hrewrites =>
      rw [hvalue, Option.some.injEq] at hitems
      subst hitems
      exact ⟨_, hother, fieldsRewrite_zip hrewrites⟩
  | _ => cases hitems

end Fields

/-! ## Sections -/

namespace Part

/-- A part that can be read is read the same in another document. -/
def Keeps (old new : Part α) : Prop :=
  ∀ value, old = .read value → new = .read value

theorem Keeps.map {old new : Part α} (f : α → β) (h : old.Keeps new) :
    (f <$> old).Keeps (f <$> new) := by
  intro value hvalue
  obtain ⟨x, hx, hfx⟩ := map_eq_read_iff.mp hvalue
  exact map_eq_read_iff.mpr ⟨x, h x hx, hfx⟩

theorem Keeps.seq {old new : Part (α → β)} {oldArgument newArgument : Part α}
    (h : old.Keeps new) (hargument : oldArgument.Keeps newArgument) :
    (old <*> oldArgument).Keeps (new <*> newArgument) := by
  intro value hvalue
  obtain ⟨f, x, hf, hx, hfx⟩ := seq_eq_read_iff.mp hvalue
  exact seq_eq_read_iff.mpr ⟨f, x, h f hf, hargument x hx, hfx⟩

theorem Keeps.result {old new : Part α} (h : old.Keeps new) {value : α}
    (hvalue : old.result = .ok value) : new.result = .ok value :=
  result_eq_ok_iff.mpr (h value (result_eq_ok_iff.mp hvalue))

end Part

namespace Fields

variable {fields : List (String × Layout)} {old new : Fields} {key : String}
  {reader : Value → Except ShapeError α}

theorem keeps_part (h : FieldsRewrite fields old.entries new.entries)
    (hkey : fields.lookup key = some layout) (hreader : Respects layout reader)
    {absent absent' : Part α} (habsent : absent.Keeps absent') :
    (old.part key reader absent).Keeps (new.part key reader absent') := by
  intro result hresult
  have hrel := h key layout hkey
  cases hold : old.entries.lookup key with
  | none =>
      rw [hold] at hrel
      generalize hnew : new.entries.lookup key = given? at hrel
      cases hrel
      rw [part_of_absent hnew]
      rw [part_of_absent hold] at hresult
      exact habsent result hresult
  | some value =>
      rw [hold] at hrel
      generalize hnew : new.entries.lookup key = given? at hrel
      cases hrel with
      | some hvalue =>
          rw [part_of_lookup hnew]
          rw [part_of_lookup hold] at hresult
          cases hread : reader value with
          | error error =>
              rw [hread] at hresult
              cases hresult
          | ok read =>
              rw [hread] at hresult
              cases hvalue with
              | refl => rw [hread]; exact hresult
              | single hrewrites => rw [hreader _ _ hrewrites _ hread]; exact hresult

theorem keeps_required (h : FieldsRewrite fields old.entries new.entries)
    (hkey : fields.lookup key = some layout) (hreader : Respects layout reader) :
    (old.required key reader).Keeps (new.required key reader) := by
  apply keeps_part h hkey hreader
  intro result hresult
  cases hresult

theorem keeps_optional (h : FieldsRewrite fields old.entries new.entries)
    (hkey : fields.lookup key = some layout) (hreader : Respects layout reader) (default : α) :
    (old.optional key reader default).Keeps (new.optional key reader default) :=
  keeps_part h hkey hreader fun _ hvalue => hvalue

end Fields

/-- Sections are read field by field. -/
theorem Respects.record {name : String} {fields : List (String × Layout)} {body : Fields → Part α}
    (hbody : ∀ old new, FieldsRewrite fields old.entries new.entries →
      (body old).Keeps (body new)) :
    Respects (.record fields true) (fun value => do
      let given ← Fields.ofValue name (fields.map Prod.fst) value
      (body given).result) := by
  intro value other h result hread
  obtain ⟨given, hgiven, hresult⟩ := bind_eq_ok_iff.mp hread
  refine bind_eq_ok_iff.mpr ?_
  -- A section in a list is rewritten item by item; one in a table may become a list.
  cases hitems : value.items? with
  | some items =>
      obtain ⟨others, hothers, hfields⟩ := h.record_items_cases hitems
      rw [Fields.ofValue, hitems] at hgiven
      obtain rfl := Except.ok.inj hgiven
      have hkeeps := hbody (.ofList name _ items) (.ofList name _ others) hfields
      exact ⟨_, by rw [Fields.ofValue, hothers], hkeeps.result hresult⟩
  | none =>
      rw [Fields.ofValue, hitems] at hgiven
      cases value with
      | table entries =>
          obtain rfl := Except.ok.inj hgiven
          rcases h.record_cases with ⟨others, rfl, hfields⟩ | ⟨values, -, rfl, hfields⟩
          · have hkeeps := hbody (.ofEntries entries) (.ofEntries others) hfields
            exact ⟨_, rfl, hkeeps.result hresult⟩
          · have hkeeps := hbody (.ofEntries entries) (.ofList name _ values) hfields
            exact ⟨_, rfl, hkeeps.result hresult⟩
      | dateTime text => cases h with | item hvalue => cases hvalue
      | string text => exact absurd h not_rewrites_string
      | integer | float | boolean => cases hgiven
      | array | tables => cases hitems

end BuildSettings.Shape
