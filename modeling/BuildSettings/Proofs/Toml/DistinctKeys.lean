/-
# Distinct keys

A key is given once in a table. The tables of a document are built up by many statements,
through dotted keys, headers and inline tables, and at each step a key that is there already
is refused or has its table added to. So in every table of a document, at whatever depth,
the keys are all different, and looking a key up finds the only entry of the key.
-/

import Mathlib.Data.List.Nodup
import BuildSettings.Toml.Document

namespace BuildSettings.Toml

/-- In every table of a value the keys are all different. -/
inductive Value.WellKeyed : Value → Prop
  | scalar {value : Value} : value.items? = none → (∀ entries, value ≠ .table entries) →
      WellKeyed value
  | list {value : Value} {items : List Value} : value.items? = some items →
      (∀ item ∈ items, WellKeyed item) → WellKeyed value
  | table {entries : List (String × Value)} : (entries.map Prod.fst).Nodup →
      (∀ entry ∈ entries, WellKeyed entry.2) → WellKeyed (.table entries)

theorem Value.WellKeyed.nodup {entries : List (String × Value)}
    (h : (Value.table entries).WellKeyed) :
    (entries.map Prod.fst).Nodup := by
  cases h with
  | scalar _ hnot => exact absurd rfl (hnot entries)
  | list hitems => cases hitems
  | table hnodup => exact hnodup

theorem Value.WellKeyed.of_lookup {entries : List (String × Value)} {key : String} {value : Value}
    (h : (Value.table entries).WellKeyed) (hlookup : entries.lookup key = some value) :
    value.WellKeyed := by
  obtain ⟨before, after, rfl, -⟩ := List.lookup_eq_some_iff.mp hlookup
  cases h with
  | scalar _ hnot => exact absurd rfl (hnot _)
  | list hitems => cases hitems
  | table _ hvalues => exact hvalues (key, value) (by simp)

/-- In every table within a node the keys are all different. -/
inductive Node.WellKeyed : Node → Prop
  | value {value : Value} : value.WellKeyed → WellKeyed (.value value)
  | table {origin : Origin} {entries : List (String × Node)} : (entries.map Prod.fst).Nodup →
      (∀ entry ∈ entries, WellKeyed entry.2) → WellKeyed (.table origin entries)
  | tables {earlier : List (List (String × Node))} {last : List (String × Node)} :
      (∀ entries ∈ earlier ++ [last], (entries.map Prod.fst).Nodup) →
      (∀ entries ∈ earlier ++ [last], ∀ entry ∈ entries, WellKeyed entry.2) →
      WellKeyed (.tables earlier last)

/-- The keys of a table under construction are all different, and so they are within it. -/
structure Entries.WellKeyed (entries : Entries) : Prop where
  nodup : (entries.map Prod.fst).Nodup
  nodes : ∀ entry ∈ entries, entry.2.WellKeyed

/-! ## Values of nodes -/

theorem valuesOfEntries_eq_map (entries : List (String × Node)) :
    valuesOfEntries entries = entries.map fun entry => (entry.1, entry.2.toValue) := by
  induction entries with
  | nil => rw [valuesOfEntries, List.map_nil]
  | cons entry rest ih => rw [valuesOfEntries, ih, List.map_cons]

theorem valuesOfTables_eq_map (tables : List (List (String × Node))) :
    valuesOfTables tables = tables.map valuesOfEntries := by
  induction tables with
  | nil => rw [valuesOfTables, List.map_nil]
  | cons entries rest ih => rw [valuesOfTables, ih, List.map_cons]

/-- The entries of a table keep their keys. -/
theorem wellKeyed_table_valuesOfEntries {entries : List (String × Node)}
    (hnodup : (entries.map Prod.fst).Nodup)
    (hvalues : ∀ entry ∈ entries, entry.2.toValue.WellKeyed) :
    (Value.table (valuesOfEntries entries)).WellKeyed := by
  rw [valuesOfEntries_eq_map]
  apply Value.WellKeyed.table
  · rwa [List.map_map]
  · intro entry hentry
    obtain ⟨origin, horigin, rfl⟩ := List.mem_map.mp hentry
    exact hvalues origin horigin

theorem Node.WellKeyed.toValue {node : Node} (h : node.WellKeyed) : node.toValue.WellKeyed := by
  induction h with
  | value h => rwa [Node.toValue]
  | table hnodup _ ih =>
      rw [Node.toValue]
      exact wellKeyed_table_valuesOfEntries hnodup ih
  | @tables earlier last hnodup _ ih =>
      have hitems : (Value.tables (valuesOfTables earlier ++ [valuesOfEntries last])).items? =
          some ((earlier ++ [last]).map fun entries => .table (valuesOfEntries entries)) := by
        simp [Value.items?, valuesOfTables_eq_map]
      rw [Node.toValue]
      refine .list hitems ?_
      intro item hitem
      obtain ⟨entries, hentries, rfl⟩ := List.mem_map.mp hitem
      exact wellKeyed_table_valuesOfEntries (hnodup entries hentries) (ih entries hentries)

/-! ## Adding to tables -/

namespace Entries

variable {entries result : Entries} {key : String} {node : Node} {making current origin : Origin}

theorem WellKeyed.nil : WellKeyed [] :=
  ⟨List.nodup_nil, by simp⟩

theorem WellKeyed.node_table (h : entries.WellKeyed) (origin : Origin) :
    (Node.table origin entries).WellKeyed :=
  .table h.nodup h.nodes

theorem WellKeyed.of_node_table (h : (Node.table origin entries).WellKeyed) :
    entries.WellKeyed := by
  cases h with
  | table hnodup hnodes => exact ⟨hnodup, hnodes⟩

theorem WellKeyed.node_tables {earlier : List Entries} {last : Entries}
    (hearlier : ∀ entries ∈ earlier, WellKeyed entries) (hlast : last.WellKeyed) :
    (Node.tables earlier last).WellKeyed := by
  have hall : ∀ entries ∈ earlier ++ [last], WellKeyed entries := by
    simpa [or_imp, forall_and] using ⟨hearlier, hlast⟩
  exact .tables (fun entries hentries => (hall entries hentries).nodup)
    (fun entries hentries => (hall entries hentries).nodes)

theorem WellKeyed.of_node_tables {earlier : List Entries} {last : Entries}
    (h : (Node.tables earlier last).WellKeyed) :
    ∀ entries ∈ earlier ++ [last], WellKeyed entries := by
  cases h with
  | tables hnodup hnodes =>
      intro entries hentries
      exact ⟨hnodup entries hentries, hnodes entries hentries⟩

theorem WellKeyed.of_lookup (h : entries.WellKeyed) (hlookup : entries.lookup key = some node) :
    node.WellKeyed := by
  obtain ⟨before, after, rfl, -⟩ := List.lookup_eq_some_iff.mp hlookup
  exact h.nodes (key, node) (by simp)

/-- A key that is not there can be added. -/
theorem WellKeyed.concat (h : entries.WellKeyed) (hkey : key ∉ entries.map Prod.fst)
    (hnode : node.WellKeyed) : WellKeyed (entries ++ [(key, node)]) where
  nodup := by
    rw [List.map_append, List.map_cons, List.map_nil]
    rw [← List.concat_eq_append]
    exact h.nodup.concat hkey
  nodes entry hentry := by
    cases List.mem_append.mp hentry with
    | inl hmem => exact h.nodes entry hmem
    | inr hmem =>
        obtain rfl := List.mem_singleton.mp hmem
        exact hnode

theorem not_mem_of_lookup (h : entries.lookup key = none) : key ∉ entries.map Prod.fst := by
  rw [List.lookup_eq_none_iff] at h
  intro hmem
  obtain ⟨entry, hentry, rfl⟩ := List.mem_map.mp hmem
  simpa using h entry hentry

/-- Replacing what stands under a key keeps the keys. -/
theorem WellKeyed.replace (h : entries.WellKeyed) (hnode : node.WellKeyed) :
    (entries.replace key node).WellKeyed where
  nodup := by
    have hkeys : (entries.replace key node).map Prod.fst = entries.map Prod.fst := by
      rw [Entries.replace, List.map_map]
      apply List.map_congr_left
      intro entry _
      dsimp only [Function.comp]
      split
      · rename_i heq
        exact heq.symm
      · rfl
    rw [hkeys]
    exact h.nodup
  nodes entry hentry := by
    obtain ⟨old, hold, rfl⟩ := List.mem_map.mp hentry
    split
    · exact hnode
    · exact h.nodes old hold

theorem WellKeyed.remove (h : entries.WellKeyed) : (entries.remove key).WellKeyed where
  nodup := (List.filter_sublist.map Prod.fst).nodup h.nodup
  nodes entry hentry := h.nodes entry (List.mem_of_mem_filter hentry)

/-- What keeps the keys of every table apart keeps them apart at the end of a way. The
induction is on the way; a table that is missing on it starts out empty. -/
theorem WellKeyed.changeAt? {change : Origin → Entries → Option Entries}
    (hchange : ∀ origin inner outer, WellKeyed inner → change origin inner = some outer →
      WellKeyed outer)
    {way : List String} (h : entries.WellKeyed)
    (hresult : Entries.changeAt? making change current way entries = some result) :
    result.WellKeyed := by
  induction way generalizing current entries result with
  | nil => exact hchange current entries result h hresult
  | cons key way ih =>
      rw [Entries.changeAt?] at hresult
      cases hlookup : entries.lookup key with
      | none =>
          rw [hlookup] at hresult
          obtain ⟨inner, hinner, hresult⟩ := Option.bind_eq_some_iff.mp hresult
          obtain rfl := Option.some.inj hresult
          exact h.concat (not_mem_of_lookup hlookup) ((ih .nil hinner).node_table _)
      | some node =>
          have hnode := h.of_lookup hlookup
          cases node with
          | value => simp [hlookup] at hresult
          | table origin inner =>
              simp only [hlookup] at hresult
              split at hresult
              · cases hresult
              · obtain ⟨outer, houter, hresult⟩ := Option.bind_eq_some_iff.mp hresult
                obtain rfl := Option.some.inj hresult
                exact h.replace ((ih (.of_node_table hnode) houter).node_table _)
          | tables earlier last =>
              rw [hlookup] at hresult
              obtain ⟨outer, houter, hresult⟩ := Option.bind_eq_some_iff.mp hresult
              obtain rfl := Option.some.inj hresult
              have htables := WellKeyed.of_node_tables hnode
              have hlast := ih (htables last (by simp)) houter
              exact h.replace (WellKeyed.node_tables
                (fun table htable => htables table (List.mem_append_left _ htable)) hlast)

/-- What every step keeps is kept by all steps together. -/
theorem of_foldlM_eq_some {σ α : Type} {step : σ → α → Option σ} {good : σ → Prop}
    {items : List α} {state result : σ}
    (hstep : ∀ item ∈ items, ∀ state next, good state → step state item = some next → good next)
    (h : good state) (hresult : items.foldlM step state = some result) : good result := by
  induction items generalizing state with
  | nil =>
      obtain rfl := Option.some.inj hresult
      exact h
  | cons item rest ih =>
      obtain ⟨hitem, hrest⟩ := List.forall_mem_cons.mp hstep
      rw [List.foldlM_cons] at hresult
      obtain ⟨next, hnext, hresult⟩ := Option.bind_eq_some_iff.mp hresult
      exact ih hrest (hitem state next h hnext) hresult

theorem WellKeyed.assign? {path : KeyPath} {value : Value} (h : entries.WellKeyed)
    (hvalue : value.WellKeyed) (hresult : Entries.assign? path value entries = some result) :
    result.WellKeyed := by
  refine h.changeAt? ?_ hresult
  intro origin inner outer hinner houter
  split at houter
  · rw [add?] at houter
    cases hlookup : inner.lookup path.key with
    | some node => simp [hlookup] at houter
    | none =>
        rw [hlookup] at houter
        obtain rfl := Option.some.inj houter
        exact hinner.concat (not_mem_of_lookup hlookup) (.value hvalue)
  · cases houter

theorem WellKeyed.assignAll? {assignments : List (KeyPath × Value)} (h : entries.WellKeyed)
    (hvalues : ∀ assignment ∈ assignments, assignment.2.WellKeyed)
    (hresult : Entries.assignAll? entries assignments = some result) : result.WellKeyed := by
  refine of_foldlM_eq_some ?_ h hresult
  intro assignment hassignment state next hstate hnext
  exact hstate.assign? (hvalues assignment hassignment) hnext

end Entries

/-- The values that a section gives to keys have different keys in their tables. -/
def Section.WellKeyed (sect : Section) : Prop :=
  ∀ assignment ∈ sect.assignments, assignment.2.WellKeyed

/-- A section is placed where its key is free, or its table takes the place of the table there. -/
theorem Section.WellKeyed.placeIn? {sect : Section} {entries result : Entries}
    (hsect : sect.WellKeyed) (h : entries.WellKeyed)
    (hresult : sect.placeIn? entries = some result) : result.WellKeyed := by
  rw [Section.placeIn?] at hresult
  split at hresult
  · obtain ⟨body, hbody, hresult⟩ := Option.bind_eq_some_iff.mp hresult
    have hbodyKeyed := Entries.WellKeyed.nil.assignAll? hsect hbody
    cases hlookup : entries.lookup sect.path.key with
    | none =>
        rw [hlookup] at hresult
        obtain rfl := Option.some.inj hresult
        exact h.concat (Entries.not_mem_of_lookup hlookup)
          (Entries.WellKeyed.node_tables (by simp) hbodyKeyed)
    | some node =>
        rw [hlookup] at hresult
        cases node with
        | value => cases hresult
        | table => cases hresult
        | tables earlier last =>
            obtain rfl := Option.some.inj hresult
            have htables := Entries.WellKeyed.of_node_tables (h.of_lookup hlookup)
            exact h.replace (Entries.WellKeyed.node_tables htables hbodyKeyed)
  · cases hlookup : entries.lookup sect.path.key with
    | none =>
        rw [hlookup] at hresult
        obtain ⟨body, hbody, hresult⟩ := Option.bind_eq_some_iff.mp hresult
        obtain rfl := Option.some.inj hresult
        exact h.concat (Entries.not_mem_of_lookup hlookup)
          ((Entries.WellKeyed.nil.assignAll? hsect hbody).node_table _)
    | some node =>
        rw [hlookup] at hresult
        cases node with
        | value => cases hresult
        | tables => cases hresult
        | table origin inner =>
            cases origin with
            | header => cases hresult
            | dotted => cases hresult
            | ancestor =>
                obtain ⟨body, hbody, hresult⟩ := Option.bind_eq_some_iff.mp hresult
                obtain rfl := Option.some.inj hresult
                have hinner := Entries.WellKeyed.of_node_table (h.of_lookup hlookup)
                -- The table moves behind the others, which must not have its key.
                refine h.remove.concat ?_ ((hinner.assignAll? hsect hbody).node_table _)
                simp [Entries.remove]

/-! ## Reading values -/

/-- A reader gives good things only. -/
def Gives {α : Type} (reader : Reader α) (good : α → Prop) : Prop :=
  ∀ tokens reading, reader tokens = some reading → good reading.value

/-- An unquoted text is a value without tables. -/
theorem wellKeyed_of_ofBare? {text : List Char} {value : Value}
    (h : Value.ofBare? text = some value) : value.WellKeyed := by
  suffices hscalar : value.items? = none ∧ ∀ entries, value ≠ .table entries from
    .scalar hscalar.1 hscalar.2
  rw [Value.ofBare?] at h
  split at h
  · obtain rfl := Option.some.inj h
    exact ⟨rfl, fun _ => nofun⟩
  · split at h
    · obtain rfl := Option.some.inj h
      exact ⟨rfl, fun _ => nofun⟩
    · simp only [Option.orElse_eq_orElse, Option.orElse_eq_or, Option.or_eq_some_iff,
        Option.map_eq_some_iff] at h
      rcases h with ⟨text, -, rfl⟩ | ⟨-, ⟨number, -, rfl⟩ | ⟨-, number, -, rfl⟩⟩ <;>
        exact ⟨rfl, fun _ => nofun⟩

theorem gives_readScalar : Gives readScalar Value.WellKeyed := by
  intro tokens reading h
  fun_cases readScalar tokens with
  | case1 => cases h
  | case2 =>
      obtain rfl := Option.some.inj h
      exact .scalar rfl fun _ => nofun
  | case3 =>
      obtain rfl := Option.some.inj h
      exact .scalar rfl fun _ => nofun
  | case4 token rest hquoted hparagraph =>
      rw [readScalar] at h
      · obtain ⟨value, hvalue, h⟩ := Option.bind_eq_some_iff.mp h
        split at h
        · obtain rfl := Option.some.inj h
          exact wellKeyed_of_ofBare? hvalue
        · cases h
      · exact hquoted
      · exact hparagraph

variable {item : Reader Value} {tokens : List Token}

/-- The items of an array are read one by one. -/
theorem forall_readItems (hitem : Gives item Value.WellKeyed)
    {reading : Reading (List Value) tokens} (h : readItems item tokens = some reading) :
    ∀ value ∈ reading.value, value.WellKeyed := by
  fun_induction readItems item tokens with
  | case1 => cases h
  | case2 =>
      obtain rfl := Option.some.inj h
      simp
  | case3 tokens token rest hopen hskip ih =>
      obtain ⟨first, hfirst, h⟩ := Option.bind_eq_some_iff.mp h
      have hvalue := hitem _ _ hfirst
      dsimp only at h
      split at h
      · rename_i later hafter
        obtain ⟨others, hothers, rfl⟩ := Option.map_eq_some_iff.mp h
        exact List.forall_mem_cons.mpr ⟨hvalue, ih first later hafter hothers⟩
      · obtain rfl := Option.some.inj h
        simpa using hvalue
      · cases h

theorem gives_readAssignment (hitem : Gives item Value.WellKeyed) :
    Gives (readAssignment item) fun assignment => assignment.2.WellKeyed := by
  intro tokens reading h
  obtain ⟨key, hkey, h⟩ := Option.bind_eq_some_iff.mp h
  split at h
  · obtain ⟨value, hvalue, rfl⟩ := Option.map_eq_some_iff.mp h
    exact hitem _ _ hvalue
  · cases h

/-- The members of an inline table are read one by one. -/
theorem forall_readMembers (hitem : Gives item Value.WellKeyed)
    {reading : Reading (List (KeyPath × Value)) tokens}
    (h : readMembers item tokens = some reading) :
    ∀ assignment ∈ reading.value, assignment.2.WellKeyed := by
  fun_induction readMembers item tokens with
  | case1 tokens ih =>
      obtain ⟨first, hfirst, h⟩ := Option.bind_eq_some_iff.mp h
      have hvalue := gives_readAssignment hitem _ _ hfirst
      dsimp only at h
      split at h
      · rename_i later hafter
        obtain ⟨others, hothers, rfl⟩ := Option.map_eq_some_iff.mp h
        exact List.forall_mem_cons.mpr ⟨hvalue, ih first later hafter hothers⟩
      · obtain rfl := Option.some.inj h
        simpa using hvalue
      · cases h

theorem gives_readInlineTable (hitem : Gives item Value.WellKeyed) :
    Gives (readInlineTable item) Value.WellKeyed := by
  intro tokens reading h
  rw [readInlineTable] at h
  split at h
  · obtain rfl := Option.some.inj h
    exact .table List.nodup_nil (by simp)
  · obtain ⟨members, hmembers, h⟩ := Option.bind_eq_some_iff.mp h
    obtain ⟨entries, hentries, rfl⟩ := Option.map_eq_some_iff.mp h
    have hkeyed := Entries.WellKeyed.nil.assignAll? (forall_readMembers hitem hmembers) hentries
    exact (hkeyed.node_table .header).toValue

/-- The induction is on the depth to which brackets may be nested. -/
theorem gives_readValue (depth : Nat) : Gives (readValue depth) Value.WellKeyed := by
  induction depth with
  | zero => exact gives_readScalar
  | succ depth ih =>
      intro tokens reading h
      rw [readValue] at h
      dsimp only at h
      split at h
      · obtain ⟨items, hitems, rfl⟩ := Option.map_eq_some_iff.mp h
        exact .list rfl (forall_readItems ih hitems)
      · obtain ⟨table, htable, rfl⟩ := Option.map_eq_some_iff.mp h
        exact gives_readInlineTable ih _ table htable
      · exact gives_readScalar _ _ h

/-! ## Building up a document -/

/-- The value that a statement gives to a key has different keys in its tables. -/
def Statement.WellKeyed : Statement → Prop
  | .assign _ value => value.WellKeyed
  | .table _ | .element _ => True

theorem gives_readStatement : Gives readStatement Statement.WellKeyed := by
  intro tokens reading h
  fun_cases readStatement tokens with
  | case1 =>
      obtain ⟨header, hheader, rfl⟩ := Option.map_eq_some_iff.mp h
      trivial
  | case2 =>
      rw [readStatement] at h
      · obtain ⟨header, hheader, rfl⟩ := Option.map_eq_some_iff.mp h
        trivial
      · assumption
  | case3 =>
      rw [readStatement] at h
      · obtain ⟨assignment, hassignment, rfl⟩ := Option.map_eq_some_iff.mp h
        exact gives_readAssignment (gives_readValue _) _ _ hassignment
      · assumption
      · assumption

theorem forall_statements? {statements : List Statement}
    (h : statements? tokens = some statements) :
    ∀ statement ∈ statements, statement.WellKeyed := by
  fun_induction statements? tokens generalizing statements with
  | case1 =>
      obtain rfl := Option.some.inj h
      simp
  | case2 tokens token rest hskip ih =>
      obtain ⟨first, hfirst, h⟩ := Option.bind_eq_some_iff.mp h
      have hstatement := gives_readStatement _ _ hfirst
      split at h
      · obtain rfl := Option.some.inj h
        simpa using hstatement
      · rename_i later hafter
        obtain ⟨others, hothers, rfl⟩ := Option.map_eq_some_iff.mp h
        exact List.forall_mem_cons.mpr ⟨hstatement, ih first later hafter hothers⟩
      · cases h

/-- Every assignment goes to the section that it stands in. -/
theorem forall_sectionsOfStatements {statements : List Statement}
    (h : ∀ statement ∈ statements, statement.WellKeyed) :
    (∀ assignment ∈ (sectionsOfStatements statements).1, assignment.2.WellKeyed) ∧
      ∀ sect ∈ (sectionsOfStatements statements).2, sect.WellKeyed := by
  induction statements with
  | nil => simp [sectionsOfStatements]
  | cons statement rest ih =>
      obtain ⟨hstatement, hrest⟩ := List.forall_mem_cons.mp h
      obtain ⟨hfirst, hsections⟩ := ih hrest
      cases statement with
      | assign path value => exact ⟨List.forall_mem_cons.mpr ⟨hstatement, hfirst⟩, hsections⟩
      | table path | element path =>
          exact ⟨by simp [sectionsOfStatements], List.forall_mem_cons.mpr ⟨hfirst, hsections⟩⟩

theorem wellKeyed_of_entriesOfStatements? {statements : List Statement} {entries : Entries}
    (hstatements : ∀ statement ∈ statements, statement.WellKeyed)
    (h : entriesOfStatements? statements = some entries) : entries.WellKeyed := by
  obtain ⟨hfirst, hsections⟩ := forall_sectionsOfStatements hstatements
  obtain ⟨start, hstart, h⟩ := Option.bind_eq_some_iff.mp h
  refine Entries.of_foldlM_eq_some ?_ (Entries.WellKeyed.nil.assignAll? hfirst hstart) h
  intro sect hsect state next hstate hnext
  exact hstate.changeAt? (fun _ _ _ hinner => (hsections sect hsect).placeIn? hinner) hnext

/-- In every table of a document the keys are all different. -/
theorem wellKeyed_of_document? {text : String} {entries : List (String × Value)}
    (h : document? text = some entries) : (Value.table entries).WellKeyed := by
  obtain ⟨tokens, htokens, h⟩ := Option.bind_eq_some_iff.mp h
  obtain ⟨statements, hstatements, h⟩ := Option.bind_eq_some_iff.mp h
  obtain ⟨nodes, hnodes, h⟩ := Option.bind_eq_some_iff.mp h
  obtain rfl := Option.some.inj h
  have hkeyed := wellKeyed_of_entriesOfStatements? (forall_statements? hstatements) hnodes
  exact (hkeyed.node_table .header).toValue

end BuildSettings.Toml
