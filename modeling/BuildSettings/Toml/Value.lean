/-
# Values of TOML

The values that a TOML document is made of. A table lists its entries in the
order in which their keys first appear; a date or time is kept as its text. The
tables that headers open one by one under a common key are told apart from an
array that is written between brackets, though both are lists of items.
-/

import BuildSettings.Toml.DateTime

namespace BuildSettings.Toml

/-- A value of a TOML document. -/
inductive Value
  | string (text : String)
  | integer (value : Int)
  | float (value : Float)
  | boolean (value : Bool)
  | dateTime (text : String)
  /-- Items between brackets. -/
  | array (items : List Value)
  /-- Tables with a header each. -/
  | tables (elements : List (List (String × Value)))
  | table (entries : List (String × Value))

/-- The items of a value that is a list, however it is written. -/
def Value.items? : Value → Option (List Value)
  | .array items => some items
  | .tables elements => some (elements.map .table)
  | _ => none

/-- The value that an unquoted text stands for. -/
def Value.ofBare? (text : List Char) : Option Value :=
  if text = ['t', 'r', 'u', 'e'] then some (.boolean true)
  else if text = ['f', 'a', 'l', 's', 'e'] then some (.boolean false)
  else
    ((dateTime? text).map .dateTime)
      <|> ((integer? text).map .integer)
      <|> ((float? text).map .float)

end BuildSettings.Toml
