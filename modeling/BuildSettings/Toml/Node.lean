/-
# Tables under construction

While a TOML document is read its tables remember how they came into being, for
that decides what may still be added to them: a key is given once, a table has
one header, a table opened by dotted keys is closed to headers and a table with
a header is closed to dotted keys. Adding keeps the order of first appearance.
-/

import BuildSettings.Toml.Value

namespace BuildSettings.Toml

/-- How a table came into being. -/
inductive Origin
  /-- By a header of its own. -/
  | header
  /-- As a table on the way to a header. -/
  | ancestor
  /-- By a dotted key. -/
  | dotted
  deriving Repr, DecidableEq

/-- What stands under a key of a table under construction. -/
inductive Node
  /-- A value, complete. -/
  | value (value : Value)
  /-- A table. -/
  | table (origin : Origin) (entries : List (String × Node))
  /-- An array of tables, each with a header; the last is still open. -/
  | tables (earlier : List (List (String × Node))) (last : List (String × Node))

/-- The entries of a table under construction. -/
abbrev Entries := List (String × Node)

/-- A key behind the tables that it stands in. -/
structure KeyPath where
  parents : List String
  key : String
  deriving Repr, DecidableEq

/-- The number of keys on the path. -/
def KeyPath.length (path : KeyPath) : Nat :=
  path.parents.length + 1

namespace Entries

/-- The entries with what stands under a key replaced. -/
def replace (key : String) (node : Node) (entries : Entries) : Entries :=
  entries.map fun entry => if entry.1 = key then (key, node) else entry

/-- The entries without a key. -/
def remove (key : String) (entries : Entries) : Entries :=
  entries.filter (·.1 ≠ key)

/-- The entries with one more at the end, unless the key is taken. -/
def add? (key : String) (node : Node) (entries : Entries) : Option Entries :=
  match entries.lookup key with
  | some _ => none
  | none => some (entries ++ [(key, node)])

/-- Change the table at the end of a way. Tables that are missing on the way are
made, with the given origin; in an array of tables the way leads through the
last one. Dotted keys do not lead through a table that has a header. -/
def changeAt? (making : Origin) (change : Origin → Entries → Option Entries) :
    (current : Origin) → (way : List String) → Entries → Option Entries
  | current, [], entries => change current entries
  | _, key :: way, entries =>
    match entries.lookup key with
    | none => do
      let inner ← changeAt? making change making way []
      some (entries ++ [(key, .table making inner)])
    | some (.table origin inner) =>
      if making = .dotted ∧ origin = .header then none
      else do
        let inner ← changeAt? making change origin way inner
        some (replace key (.table origin inner) entries)
    | some (.tables earlier last) => do
      let last ← changeAt? making change .header way last
      some (replace key (.tables earlier last) entries)
    | some (.value _) => none

/-- Give a value to a key. The table that a dotted key stands in must have been
opened by dotted keys. -/
def assign? (path : KeyPath) (value : Value) (entries : Entries) : Option Entries :=
  changeAt? .dotted
    (fun origin inner =>
      if path.parents = [] ∨ origin = .dotted then add? path.key (.value value) inner else none)
    .header path.parents entries

/-- Give values to keys, one after the other. -/
def assignAll? (entries : Entries) (assignments : List (KeyPath × Value)) : Option Entries :=
  assignments.foldlM (fun entries assignment => assign? assignment.1 assignment.2 entries) entries

end Entries

mutual

/-- The value of what has been constructed. -/
def Node.toValue : Node → Value
  | .value value => value
  | .table _ entries => .table (valuesOfEntries entries)
  | .tables earlier last => .tables (valuesOfTables earlier ++ [valuesOfEntries last])

/-- The entries with the value of each. -/
def valuesOfEntries : List (String × Node) → List (String × Value)
  | [] => []
  | (key, node) :: rest => (key, node.toValue) :: valuesOfEntries rest

/-- The entries of each table with the value of each entry. -/
def valuesOfTables : List (List (String × Node)) → List (List (String × Value))
  | [] => []
  | entries :: rest => valuesOfEntries entries :: valuesOfTables rest

end

end BuildSettings.Toml
