/-
# Shape errors

What can be wrong with a well-formed document: a value of another type than its
place wants, a field that is missing, a list that is too short, an entry that
fits none of its forms. The errors say what was found and what was wanted.
-/

import BuildSettings.Decimal.Shortest
import BuildSettings.Feature
import BuildSettings.ModulePath
import BuildSettings.Text.Quoted
import BuildSettings.Toml.Value

namespace BuildSettings

/-- What a place in a document wants. -/
inductive Wanted
  | text
  | path
  | list
  | map
  | fields (name : String)
  deriving Repr, DecidableEq

/-- The words for what a place wants. -/
def Wanted.description : Wanted → String
  | .text => "a string"
  | .path => "path string"
  | .list => "a sequence"
  | .map => "a map"
  | .fields name => "struct " ++ name

/-- Why a value is no feature flag, apart from an unknown name. -/
inductive FeatureShape
  /-- It is neither a text nor a table. -/
  | wrongType
  /-- It is a table without a key. -/
  | noKey
  /-- It is a table with several keys. -/
  | severalKeys
  /-- The value under its key is a table or an array that holds something. -/
  | filled
  /-- The value under its key is a list of tables with headers. -/
  | filledTables
  /-- The value under its key is neither a table nor a list. -/
  | noTable (found : String)
  deriving Repr, DecidableEq

/-- The wording of what is wrong with a feature flag. -/
def FeatureShape.message : FeatureShape → String
  | .wrongType => "wanted string or table"
  | .noKey => "wanted exactly 1 element, found 0 elements"
  | .severalKeys => "wanted exactly 1 element, more than 1 element"
  | .filled => "expected empty table"
  | .filledTables => "expected empty array"
  | .noTable found => "expected table, found " ++ found

/-- What is wrong with the shape of a document. -/
inductive ShapeError
  /-- A value has another type than its place wants. -/
  | wrongType (found : String) (wanted : Wanted)
  /-- A list stands for fields and is too short for them. -/
  | tooShort (length : Nat) (name : String) (fields : Nat)
  /-- A field is not given. -/
  | missing (field : String)
  /-- A value fits no form of the entries named. -/
  | noForm (name : String)
  /-- A name is no feature flag. -/
  | unknownFeature (name : String)
  /-- A value is no feature flag. -/
  | featureShape (fault : FeatureShape)
  /-- A text is no module path. -/
  | modulePath (error : ModulePathError)
  deriving Repr, DecidableEq

/-- The wording of a shape error. -/
def ShapeError.message : ShapeError → String
  | .wrongType found wanted => "invalid type: " ++ found ++ ", expected " ++ wanted.description
  | .tooShort length name fields =>
    "invalid length " ++ Nat.repr length ++ ", expected struct " ++ name ++ " with " ++
      Nat.repr fields ++ (if fields = 1 then " element" else " elements")
  | .missing field => "missing field `" ++ field ++ "`"
  | .noForm name => "data did not match any variant of untagged enum " ++ name
  | .unknownFeature name => Feature.unknownMessage name
  | .featureShape fault => fault.message
  | .modulePath error => error.toFailure.display

namespace Toml.Value

/-- How a value is described in an error about its type. -/
def description : Value → String
  | .string text => "string " ++ Text.quoted text
  | .integer value => "integer `" ++ toString value ++ "`"
  | .float value => "floating point `" ++ floatText value ++ "`"
  | .boolean value => "boolean `" ++ (if value then "true" else "false") ++ "`"
  | .array _ | .tables _ => "sequence"
  | .dateTime _ | .table _ => "map"

/-- The word for the type of a value. -/
def typeName : Value → String
  | .string _ => "string"
  | .integer _ => "integer"
  | .float _ => "float"
  | .boolean _ => "boolean"
  | .dateTime _ => "datetime"
  | .array _ | .tables _ => "array"
  | .table _ => "table"

end Toml.Value

end BuildSettings
