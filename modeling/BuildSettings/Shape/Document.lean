/-
# Reading documents

A text is read into what it describes in two steps: it must be well-formed, and
what it spells must have the right shape.
-/

import BuildSettings.Shape.Fields
import BuildSettings.Toml.Document

namespace BuildSettings

/-- Which text cannot be read, and why. -/
inductive DocumentError
  /-- The text is not well-formed. -/
  | malformed (text : String)
  /-- The text is well-formed but has the wrong shape. -/
  | misshapen (text : String) (error : ShapeError)
  deriving Repr, DecidableEq

/-- The wording of an error about the document of the given name. The place of the fault in
the text is not told. -/
def DocumentError.message (name : String) : DocumentError → String
  | .malformed _ => "Failed to parse " ++ name
  | .misshapen _ error => "Failed to parse " ++ name ++ ": " ++ error.message

/-- Read a text by the fields at its top level. -/
def readDocument {α : Type} (reader : Shape.Fields → Except ShapeError α) (text : String) :
    Except DocumentError α :=
  match Toml.document? text with
  | none => .error (.malformed text)
  | some entries =>
    match reader (.ofEntries entries) with
    | .ok value => .ok value
    | .error error => .error (.misshapen text error)

end BuildSettings
