/-
# File systems

What the library asks of a file system: whether a path is a regular file, and
what text a file holds. Both questions are about absolute paths; a world adds a
working directory, from which relative paths are seen, and an environment. Some
paths are refused as they are written, before anything is looked up.
-/

import BuildSettings.Environment
import BuildSettings.Path

namespace BuildSettings

/-- Why a file cannot be read. -/
inductive ReadError
  | notFound
  | notDirectory
  | isDirectory
  | nameTooLong
  /-- The path holds a NUL. -/
  | nulInPath
  /-- The bytes of the file are no UTF-8. -/
  | notText
  /-- Another answer of the operating system, in its words. -/
  | other (message : String)
  deriving Repr, DecidableEq

/-- The wording of a read error; those of the operating system end with its number. -/
def ReadError.message : ReadError → String
  | .notFound => "No such file or directory (os error 2)"
  | .notDirectory => "Not a directory (os error 20)"
  | .isDirectory => "Is a directory (os error 21)"
  | .nameTooLong => "File name too long (os error 36)"
  | .nulInPath => "file name contained an unexpected NUL byte"
  | .notText => "stream did not contain valid UTF-8"
  | .other message => message

/-- The answers of a file system about absolute paths. -/
structure FileSystem where
  isFile : Path → Bool
  read : Path → Except ReadError String

/-- What a program may ask of its surroundings, in a monad of effects. -/
structure Host (m : Type → Type) where
  workingDir : m (Except ReadError Path)
  isFile : Path → m Bool
  read : Path → m (Except ReadError String)
  getVariable : String → m (Option String)

/-- A file system with a working directory and an environment. -/
structure World where
  files : FileSystem
  workingDir : Path
  environment : Environment

/-- The longest spelling of a path that is looked up, in bytes. -/
def maxPathBytes : Nat := 4095

/-- Why a path is refused for its spelling: it holds a NUL, is empty or is too
long. What it is seen from adds nothing to its length. -/
def Path.refusal? (path : Path) : Option ReadError :=
  if path.spelling.toList.contains '\x00' then some .nulInPath
  else if path.spelling = "" then some .notFound
  else if maxPathBytes < path.spelling.utf8ByteSize then some .nameTooLong
  else none

/-- A world answers without effects; relative paths are seen from the working
directory. -/
def World.host (world : World) : Host Id where
  workingDir := .ok world.workingDir
  isFile path := path.refusal?.isNone && world.files.isFile (world.workingDir.join path)
  read path :=
    match path.refusal? with
    | some error => .error error
    | none => world.files.read (world.workingDir.join path)
  getVariable key := world.environment.value? key

/-- The first of some paths below which there is a regular file of a name. -/
def firstWithFile {m : Type → Type} [Monad m] (isFile : Path → m Bool) (fileName : String) :
    List Path → m (Option Path)
  | [] => pure none
  | dir :: rest => do
    if ← isFile (dir.join ⟨fileName⟩) then pure (some dir)
    else firstWithFile isFile fileName rest

/-- The nearest of a path and those above it that holds a regular file of a name. -/
def findAncestor {m : Type → Type} [Monad m] (isFile : Path → m Bool) (fileName : String)
    (start : Path) : m (Option Path) :=
  firstWithFile isFile fileName start.ancestors

end BuildSettings
