/-
# Failures

What a user is told when a settings document, a resolution or a catalog goes
wrong: a kind, which decides the opening words and the advice, and a message.
Each part of the library has its own error type that says what happened; those
types are turned into failures where they reach the user.
-/

namespace BuildSettings

/-- Which part of the work failed. -/
inductive FailureKind
  /-- The file system did not answer. -/
  | io
  /-- The settings document could not be found, read or understood. -/
  | settings
  /-- The declaration is well-formed but breaks a rule of resolution. -/
  | resolution
  /-- A version catalog is missing, malformed or inconsistent. -/
  | catalog
  /-- Anything else. -/
  | other
  deriving Repr, DecidableEq

/-- A failure as the user sees it. -/
structure Failure where
  kind : FailureKind
  message : String
  deriving Repr, DecidableEq

/-- The opening words of a failure of this kind. -/
def FailureKind.opening : FailureKind → String
  | .io => "I/O error: "
  | .settings => "Settings error: "
  | .resolution => "Workspace resolution failed: "
  | .catalog => "Version catalog error: "
  | .other => ""

/-- The advice printed below a failure of this kind, if there is any. -/
def FailureKind.help? : FailureKind → Option String
  | .settings => some "Check your settings.toml for syntax errors"
  | .resolution => some "Fix the declaration in settings.toml and run again"
  | .io | .catalog | .other => none

/-- The full text of a failure. -/
def Failure.display (failure : Failure) : String :=
  failure.kind.opening ++ failure.message

/-- The advice that goes with a failure. -/
def Failure.help? (failure : Failure) : Option String :=
  failure.kind.help?

end BuildSettings
