/-
# Documents of TOML

A document is the table that its statements build up. The statements before the
first header fill the table of the document itself; those behind a header fill
the table that the header opens. Every fault of the text, of whatever kind,
makes it no document.
-/

import BuildSettings.Toml.Statement

namespace BuildSettings.Toml

/-- A header with the values given behind it. -/
structure Section where
  /-- The header opens one more table of an array. -/
  isElement : Bool
  path : KeyPath
  assignments : List (KeyPath × Value)

/-- The assignments before the first header, and the sections. -/
def sectionsOfStatements (statements : List Statement) :
    List (KeyPath × Value) × List Section :=
  statements.foldr
    (fun statement found =>
      match statement with
      | .assign path value => ((path, value) :: found.1, found.2)
      | .table path => ([], ⟨false, path, found.1⟩ :: found.2)
      | .element path => ([], ⟨true, path, found.1⟩ :: found.2))
    ([], [])

/-- Put the table of a section into the table that it belongs to. A table on the
way to an earlier header keeps what it holds and moves to the end. -/
def Section.placeIn? (sect : Section) (entries : Entries) : Option Entries :=
  if sect.isElement then do
    let body ← Entries.assignAll? [] sect.assignments
    match entries.lookup sect.path.key with
    | none => some (entries ++ [(sect.path.key, .tables [] body)])
    | some (.tables earlier last) =>
      some (entries.replace sect.path.key (.tables (earlier ++ [last]) body))
    | some _ => none
  else
    match entries.lookup sect.path.key with
    | none => do
      let body ← Entries.assignAll? [] sect.assignments
      some (entries ++ [(sect.path.key, .table .header body)])
    | some (.table .ancestor inner) => do
      let body ← Entries.assignAll? inner sect.assignments
      some (entries.remove sect.path.key ++ [(sect.path.key, .table .header body)])
    | some _ => none

/-- The entries of the document that statements build up. -/
def entriesOfStatements? (statements : List Statement) : Option Entries :=
  let (first, sections) := sectionsOfStatements statements
  (Entries.assignAll? [] first).bind fun start =>
    sections.foldlM
      (fun entries sect =>
        Entries.changeAt? .ancestor (fun _ => sect.placeIn?) .header sect.path.parents entries)
      start

/-- The text without a byte order mark in front of it. -/
def dropByteOrderMark : List Char → List Char
  | '\uFEFF' :: rest => rest
  | text => text

/-- The entries of the document that a text spells. -/
def document? (text : String) : Option (List (String × Value)) := do
  let tokens ← tokens? (dropByteOrderMark text.toList)
  let statements ← statements? tokens
  let entries ← entriesOfStatements? statements
  some (valuesOfEntries entries)

end BuildSettings.Toml
