/-
# JSON

The JSON values that workspaces are written as, and their text: two spaces of
indentation a level, one item a line, nothing between the brackets of what is
empty.
-/

namespace BuildSettings

/-- A JSON value; workspaces need no numbers, truth values or nulls. -/
inductive Json
  | string (text : String)
  | array (items : List Json)
  | object (members : List (String × Json))
  deriving Repr

namespace Json

/-- A digit of a hexadecimal number, in lower case. -/
def hexDigit (n : Nat) : Char :=
  if n < 10 then Char.ofNat (0x30 + n) else Char.ofNat (0x61 + (n - 10))

/-- A character inside a string: quotes, backslashes and the control characters
below the space are escaped, the rest stands for itself. -/
def escape (c : Char) : List Char :=
  match c with
  | '"' => ['\\', '"']
  | '\\' => ['\\', '\\']
  | '\x08' => ['\\', 'b']
  | '\x0c' => ['\\', 'f']
  | '\n' => ['\\', 'n']
  | '\r' => ['\\', 'r']
  | '\t' => ['\\', 't']
  | c =>
    if c.toNat < 0x20 then
      ['\\', 'u', '0', '0', hexDigit (c.toNat / 16), hexDigit (c.toNat % 16)]
    else [c]

/-- A string in quotes. -/
def quote (text : String) : String :=
  "\"" ++ String.ofList (text.toList.flatMap escape) ++ "\""

/-- The blanks in front of a line. -/
def indentation (depth : Nat) : String :=
  String.ofList (List.replicate (2 * depth) ' ')

/-- Items between brackets, one a line; nothing is between the brackets of none. -/
def enclose (left right : String) (depth : Nat) : List String → String
  | [] => left ++ right
  | items =>
    left ++ "\n"
      ++ ",\n".intercalate (items.map (indentation (depth + 1) ++ ·))
      ++ "\n" ++ indentation depth ++ right

mutual

/-- The text of a value that starts on a line of the given depth. -/
def write (depth : Nat) : Json → String
  | .string text => quote text
  | .array items => enclose "[" "]" depth (writeItems (depth + 1) items)
  | .object members => enclose "\x7b" "\x7d" depth (writeMembers (depth + 1) members)

/-- The texts of the items of an array. -/
def writeItems (depth : Nat) : List Json → List String
  | [] => []
  | item :: rest => write depth item :: writeItems depth rest

/-- The texts of the members of an object. -/
def writeMembers (depth : Nat) : List (String × Json) → List String
  | [] => []
  | (name, value) :: rest =>
    (quote name ++ ": " ++ write depth value) :: writeMembers depth rest

end

/-- The text of a value. -/
def pretty (value : Json) : String :=
  value.write 0

end Json

end BuildSettings
