/-
# Command lines

The arguments of the program: options of the program, the name of a command, and
options and words of the command. Two options, `--verbose` and `--settings`, may
stand before or behind the name of the command. Arguments are read from left to
right; the first that is wrong, or asks for help or the version, decides. The
settings file may also be named by the environment, which counts for less.
-/

import BuildSettings.Path

namespace BuildSettings

/-- How a workspace is printed. -/
inductive OutputFormat
  | text
  | json
  deriving Repr, DecidableEq

/-- Which repository lists are printed. -/
inductive ListedRepositories
  | plugin
  | dependency
  | all
  deriving Repr, DecidableEq

/-- What the program is asked to do. -/
inductive Command
  | resolve (format : OutputFormat)
  | modules
  | repositories (listed : ListedRepositories)
  | catalog (name : String)
  deriving Repr, DecidableEq

/-- A command with the options of the program. -/
structure Invocation where
  command : Command
  /-- The settings file, when one is named. -/
  settings? : Option Path
  verbose : Bool
  deriving Repr

/-- Why arguments make no invocation. -/
inductive UsageError
  | unexpected (argument : String)
  | missingValue (option : String)
  | unwantedValue (option : String)
  | invalidValue (option value : String)
  | repeated (option : String)
  | unknownCommand (name : String)
  | missingCommand
  | missingName
  deriving Repr, DecidableEq

/-- The wording of a usage error. -/
def UsageError.message : UsageError → String
  | .unexpected argument => "unexpected argument '" ++ argument ++ "'"
  | .missingValue option => "a value is required for '" ++ option ++ "'"
  | .unwantedValue option => "no value is expected for '" ++ option ++ "'"
  | .invalidValue option value => "invalid value '" ++ value ++ "' for '" ++ option ++ "'"
  | .repeated option => "the argument '" ++ option ++ "' cannot be used multiple times"
  | .unknownCommand name => "unrecognized subcommand '" ++ name ++ "'"
  | .missingCommand => "a subcommand is required"
  | .missingName => "the required argument '<NAME>' is missing"

/-- Why the arguments are not carried out as a command. -/
inductive Halt
  | help
  | version
  | usage (error : UsageError)
  deriving Repr, DecidableEq

namespace Command

/-- The names of the commands. -/
inductive Verb
  | resolve
  | modules
  | repos
  | catalog
  deriving Repr, DecidableEq

/-- The spelling of a command name. -/
def Verb.name : Verb → String
  | .resolve => "resolve"
  | .modules => "modules"
  | .repos => "repos"
  | .catalog => "catalog"

/-- The command of the given name. -/
def Verb.ofName? (text : String) : Option Verb :=
  [Verb.resolve, .modules, .repos, .catalog].find? (·.name == text)

/-- Options that take no value. -/
inductive Flag
  | verbose
  | help
  | version
  deriving Repr, DecidableEq

/-- Options that take a value. -/
inductive Setting
  | settings
  | format
  | scope
  deriving Repr, DecidableEq

/-- An option by its long name. -/
def Setting.name : Setting → String
  | .settings => "--settings"
  | .format => "--format"
  | .scope => "--scope"

/-- An argument by its form. -/
inductive Argument
  /-- Two dashes alone: only words follow. -/
  | separator
  /-- Two dashes and a name, perhaps with a value behind an equals sign. -/
  | long (name : String) (value? : Option String)
  /-- One dash and letters. -/
  | short (letters : List Char)
  /-- Anything else, a single dash included. -/
  | word (text : String)
  deriving Repr, DecidableEq

/-- The form of an argument. -/
def Argument.ofText (text : String) : Argument :=
  match text.toList with
  | ['-', '-'] => .separator
  | '-' :: '-' :: rest =>
    let name := String.ofList (rest.takeWhile (· != '='))
    match rest.dropWhile (· != '=') with
    | [] => .long name none
    | _ :: value => .long name (some (String.ofList value))
  | ['-'] => .word text
  | '-' :: letters => .short letters
  | _ => .word text

/-- What has been given at one level: before the name of the command, or behind it. -/
structure Given where
  verbose : Bool := false
  settings? : Option String := none
  format? : Option OutputFormat := none
  listed? : Option ListedRepositories := none
  name? : Option String := none
  deriving Repr

/-- The flag of a long name; only the program itself has a version. -/
def flagOfName? (verb? : Option Verb) (name : String) : Option Flag :=
  if name = "verbose" then some .verbose
  else if name = "help" then some .help
  else if name = "version" ∧ verb? = none then some .version
  else none

/-- The flag of a letter. -/
def flagOfLetter? (verb? : Option Verb) (letter : Char) : Option Flag :=
  if letter = 'v' then some .verbose
  else if letter = 'h' then some .help
  else if letter = 'V' ∧ verb? = none then some .version
  else none

/-- The option with a value of a long name; each command has its own. -/
def settingOfName? (verb? : Option Verb) (name : String) : Option Setting :=
  if name = "settings" then some .settings
  else if name = "format" ∧ verb? = some .resolve then some .format
  else if name = "scope" ∧ verb? = some .repos then some .scope
  else none

namespace Given

/-- Take a flag. -/
def takeFlag (given : Given) : Flag → Except Halt Given
  | .help => .error .help
  | .version => .error .version
  | .verbose =>
    if given.verbose then .error (.usage (.repeated "--verbose"))
    else .ok { given with verbose := true }

/-- Take the letters of an argument with one dash. -/
def takeLetters (verb? : Option Verb) (given : Given) (letters : List Char) :
    Except Halt Given :=
  letters.foldlM
    (fun given letter =>
      match flagOfLetter? verb? letter with
      | some flag => given.takeFlag flag
      | none => .error (.usage (.unexpected (String.ofList ['-', letter]))))
    given

/-- The output format of a name. -/
def formatOfName? (text : String) : Option OutputFormat :=
  if text = "text" then some .text else if text = "json" then some .json else none

/-- The repository lists of a name. -/
def listedOfName? (text : String) : Option ListedRepositories :=
  if text = "plugin" then some .plugin
  else if text = "dependency" then some .dependency
  else if text = "all" then some .all
  else none

/-- Take an option with its value; each can be given once a level. -/
def takeSetting (given : Given) (setting : Setting) (value : String) : Except Halt Given :=
  let taken := match setting with
    | .settings => given.settings?.isSome
    | .format => given.format?.isSome
    | .scope => given.listed?.isSome
  let invalid : Except Halt Given := .error (.usage (.invalidValue setting.name value))
  if taken then .error (.usage (.repeated setting.name))
  else match setting with
    | .settings => if value = "" then invalid else .ok { given with settings? := some value }
    | .format =>
      match formatOfName? value with
      | some format => .ok { given with format? := some format }
      | none => invalid
    | .scope =>
      match listedOfName? value with
      | some listed => .ok { given with listed? := some listed }
      | none => invalid

/-- Take a word behind the name of the command; only a catalog has one, its name. -/
def takeWord (verb : Verb) (given : Given) (word : String) : Except Halt Given :=
  if verb = .catalog ∧ given.name? = none then .ok { given with name? := some word }
  else .error (.usage (.unexpected word))

end Given

/-- Read the arguments of one level. Behind the name of a command everything is
read; before it, reading stops at the first word, which is left with the rest. -/
def readLevel (verb? : Option Verb) (given : Given) :
    List String → Except Halt (Given × List String)
  | [] => .ok (given, [])
  | argument :: rest =>
    match Argument.ofText argument with
    | .word word =>
      match verb? with
      | none => .ok (given, word :: rest)
      | some verb => do readLevel verb? (← given.takeWord verb word) rest
    | .separator =>
      match verb? with
      | none => .error (.usage (rest.head?.elim .missingCommand .unexpected))
      | some verb => do
        let given ← rest.foldlM (fun given word => given.takeWord verb word) given
        .ok (given, [])
    | .short letters => do readLevel verb? (← given.takeLetters verb? letters) rest
    | .long name value? =>
      match flagOfName? verb? name, settingOfName? verb? name, value? with
      | some flag, _, none => do readLevel verb? (← given.takeFlag flag) rest
      | some _, _, some _ => .error (.usage (.unwantedValue argument))
      | none, none, _ => .error (.usage (.unexpected argument))
      | none, some setting, some value => do
        readLevel verb? (← given.takeSetting setting value) rest
      | none, some setting, none =>
        match rest with
        | [] => .error (.usage (.missingValue setting.name))
        | next :: later =>
          match Argument.ofText next with
          | .word value => do readLevel verb? (← given.takeSetting setting value) later
          | _ => .error (.usage (.missingValue setting.name))

/-- The help command takes the name of a command, or nothing. -/
def readHelp : List String → Halt
  | [] => .help
  | [name] => if name = "help" ∨ (Verb.ofName? name).isSome then .help
    else .usage (.unknownCommand name)
  | _ :: name :: _ => .usage (.unknownCommand name)

/-- The settings file that counts: named behind the command, before it, or by the
environment. The environment is asked at each level where none is named, and
must not be empty there. -/
def chooseSettings (outer inner : Given) (fromEnvironment? : Option String) :
    Except Halt (Option Path) :=
  if fromEnvironment? = some "" ∧ (outer.settings? = none ∨ inner.settings? = none) then
    .error (.usage (.invalidValue Setting.settings.name ""))
  else .ok ((inner.settings? <|> outer.settings? <|> fromEnvironment?).map Path.mk)

/-- The command with what has been given behind its name. -/
def ofGiven (given : Given) : Verb → Except Halt Command
  | .resolve => .ok (.resolve (given.format?.getD .text))
  | .modules => .ok .modules
  | .repos => .ok (.repositories (given.listed?.getD .all))
  | .catalog =>
    match given.name? with
    | some name => .ok (.catalog name)
    | none => .error (.usage .missingName)

end Command

/-- Read the arguments of the program; `fromEnvironment?` is the settings file that the
environment names. -/
def Invocation.ofArguments (fromEnvironment? : Option String) (arguments : List String) :
    Except Halt Invocation := do
  let (outer, rest) ← Command.readLevel none {} arguments
  match rest with
  | [] => .error (.usage .missingCommand)
  | name :: rest =>
    if name = "help" then .error (Command.readHelp rest)
    else
      match Command.Verb.ofName? name with
      | none => .error (.usage (.unknownCommand name))
      | some verb =>
        let (inner, _) ← Command.readLevel (some verb) {} rest
        let settings? ← Command.chooseSettings outer inner fromEnvironment?
        let command ← Command.ofGiven inner verb
        .ok ⟨command, settings?, outer.verbose || inner.verbose⟩

end BuildSettings
