/-
# Environments

The environment of a process is a list of entries, each written `name=value`.
A key is looked up by its text: its value is what follows `key=` in the first
entry that starts with it. The empty key and keys with a NUL have no value.
-/

namespace BuildSettings

/-- The names and values of an environment, in order. -/
structure Environment where
  entries : List (String × String)
  deriving Repr

/-- The environment without entries. -/
def Environment.empty : Environment := ⟨[]⟩

/-- The value of a key, if it is set. -/
def Environment.value? (environment : Environment) (key : String) : Option String :=
  if key = "" ∨ key.toList.contains '\x00' then none
  else environment.entries.findSome? fun entry =>
    ((key ++ "=").toList.isPrefixOf? (entry.1 ++ "=" ++ entry.2).toList).map String.ofList

end BuildSettings
