/-
# Running commands

What the program prints for a command, and how it ends: with status 0, with
status 1 and a failure, or with status 2 and a usage error. Texts are printed one
behind the other while a command is carried out; what has been printed stays when
the command fails later on.
-/

import BuildSettings.Catalog.Report
import BuildSettings.Command.Arguments
import BuildSettings.Command.Load
import BuildSettings.Workspace.Json
import BuildSettings.Workspace.Listing

namespace BuildSettings

variable {m : Type → Type} [Monad m]

/-- Steps that print as they go and can fail. What has been printed is the state, and
a failure leaves it as it is. -/
abbrev Printing (m : Type → Type) := ExceptT LoadError (StateT String m)

/-- Print a text on standard output, behind what stands there. -/
def printText (text : String) : Printing m Unit :=
  modify (· ++ text)

/-- Steps that print nothing, among steps that print. -/
def silently {α : Type} (steps : ExceptT LoadError m α) : Printing m α :=
  ExceptT.mk (StateT.lift steps.run)

/-- Print what a command asks for about a loaded workspace; a catalog is read for it. -/
def Command.perform (command : Command) (host : Host m) (loaded : LoadedWorkspace) :
    Printing m Unit :=
  match command with
  | .resolve .text => printText loaded.workspace.report
  | .resolve .json => printText (loaded.workspace.toJson.pretty ++ "\n")
  | .modules => printText (loaded.workspace.moduleListing loaded.rootDir)
  | .repositories listed => do
    if listed ≠ .dependency then
      printText (Workspace.repositoryListing "Plugin repositories"
        loaded.workspace.pluginRepositories)
    if listed ≠ .plugin then
      printText (Workspace.repositoryListing "Dependency repositories"
        loaded.workspace.dependencyRepositories)
  | .catalog name => do
    let (source, resolved) ← silently (loaded.loadCatalog host name)
    printText (resolved.report name source)

/-- Carry out an invocation. -/
def Invocation.run (invocation : Invocation) (host : Host m) : Printing m Unit := do
  let loaded ← silently (LoadedWorkspace.load host invocation.settings?)
  invocation.command.perform host loaded

/-- How a run of the program ends. -/
inductive Outcome
  /-- Status 0. -/
  | success (output : String)
  /-- Status 1. What was printed before the failure stays printed. -/
  | failed {output : String} (failure : Failure)
  /-- Status 2. -/
  | misused (error : UsageError)

/-- The exit status of an outcome. -/
def Outcome.status : Outcome → UInt32
  | .success _ => 0
  | .failed _ => 1
  | .misused _ => 2

/-- What is printed on standard output. -/
def Outcome.output : Outcome → String
  | .success output | @failed output _ => output
  | .misused _ => ""

/-- The outcome of an invocation by its result and what it has printed. -/
def Outcome.ofRun : Except LoadError Unit × String → Outcome
  | (.ok _, output) => .success output
  | (.error error, output) => @Outcome.failed output error.toFailure

/-- The name of the program. -/
def programName : String := "settler"

/-- The version of the program. -/
def programVersion : String := "0.1.0"

/-- The environment variable that may name the settings file. -/
def settingsVariable : String := "SETTLER_SETTINGS"

/-- What is printed when help is asked for. -/
def usageText : String :=
  Workspace.textOfLines
    ["Resolve multi-module build settings",
     "",
     "Usage: " ++ programName ++ " [OPTIONS] <COMMAND>",
     "",
     "Commands:",
     "  resolve  Resolve the workspace and print it [--format text|json]",
     "  modules  List included modules and their directories",
     "  repos    List repositories in resolution order [--scope plugin|dependency|all]",
     "  catalog  Load a version catalog and list its entries <NAME>",
     "  help     Print this message",
     "",
     "Options:",
     "  -v, --verbose              Enable verbose output",
     "      --settings <SETTINGS>  Path to the settings file (default: nearest settings.toml)",
     "  -h, --help                 Print help",
     "  -V, --version              Print version"]

/-- How the program ends when its arguments are not carried out as a command. -/
def Halt.outcome : Halt → Outcome
  | .help => .success usageText
  | .version => .success (programName ++ " " ++ programVersion ++ "\n")
  | .usage error => .misused error

/-- Run the program with some arguments. -/
def runProgram (host : Host m) (arguments : List String) : m Outcome := do
  let fromEnvironment? ← host.getVariable settingsVariable
  match Invocation.ofArguments fromEnvironment? arguments with
  | .error halt => pure halt.outcome
  | .ok invocation =>
    let run ← (invocation.run host).run.run ""
    pure (.ofRun run)

end BuildSettings
