/-
# Feature flags

The opt-in previews a settings document can enable. A flag is spelled the way
build scripts spell it; no other name is a flag.
-/

namespace BuildSettings

/-- An opt-in preview of the build engine. -/
inductive Feature
  /-- Generate type-safe accessors for included modules. -/
  | typesafeProjectAccessors
  /-- Treat the configuration cache as stable. -/
  | stableConfigurationCache
  deriving Repr, DecidableEq

namespace Feature

/-- Every flag, in the order in which flags are listed. -/
def all : List Feature := [.typesafeProjectAccessors, .stableConfigurationCache]

/-- The spelling of a flag. -/
def name : Feature → String
  | .typesafeProjectAccessors => "TYPESAFE_PROJECT_ACCESSORS"
  | .stableConfigurationCache => "STABLE_CONFIGURATION_CACHE"

/-- The flag with the given spelling. -/
def ofName? (text : String) : Option Feature :=
  all.find? (·.name == text)

/-- The place of a flag in `all`. -/
def index (flag : Feature) : Nat :=
  all.idxOf flag

/-- The flags that occur in a list, each once, in the order of `all`. -/
def distinct (flags : List Feature) : List Feature :=
  all.filter (flags.contains ·)

/-- What is said about a text that is no flag. -/
def unknownMessage (text : String) : String :=
  "unknown variant `" ++ text ++ "`, expected " ++
    " or ".intercalate (all.map fun flag => "`" ++ flag.name ++ "`")

end Feature

end BuildSettings
