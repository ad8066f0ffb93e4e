/-
# File trees

A file system given by the files it holds. A directory is there when something
is in it or when it is listed. A path is walked from the root piece by piece:
every piece but the last must lead to a directory, `..` leads to the directory
above, and a slash at the end asks for a directory.
-/

import BuildSettings.FileSystem

namespace BuildSettings

/-- A place in a tree: the names that lead to it from the root. -/
abbrev Location := List String

/-- The files of a tree with their bytes, and directories that may be empty. -/
structure FileTree where
  files : List (Location × ByteArray)
  directories : List Location

/-- What a path leads to. -/
inductive TreeEntry
  | file (bytes : ByteArray)
  | directory (location : Location)

namespace FileTree

/-- The longest name of a file or directory, in bytes. -/
def maxNameBytes : Nat := 255

/-- The location that the components of a path spell, without asking what is there. -/
def locationOf (path : Path) : Location :=
  path.components.foldl
    (fun location component =>
      match component with
      | .name text => location ++ [text]
      | .up => location.dropLast
      | .root | .here => location)
    []

/-- The location is a directory. -/
def isDirectory (tree : FileTree) (location : Location) : Bool :=
  location.isEmpty
    || tree.directories.any (location.isPrefixOf ·)
    || tree.files.any fun file => location.isPrefixOf file.1 && location != file.1

/-- What is found at a location. -/
def entry? (tree : FileTree) (location : Location) : Option TreeEntry :=
  match tree.files.lookup location with
  | some bytes => some (.file bytes)
  | none => if tree.isDirectory location then some (.directory location) else none

/-- Follow one piece of a path. -/
def step (tree : FileTree) (current : TreeEntry) (piece : List Char) :
    Except ReadError TreeEntry :=
  match current with
  | .file _ => .error .notDirectory
  | .directory location =>
    let name := String.ofList piece
    if name = "" ∨ name = "." then .ok current
    else if name = ".." then .ok (.directory location.dropLast)
    else if maxNameBytes < name.utf8ByteSize then .error .nameTooLong
    else
      match tree.entry? (location ++ [name]) with
      | some found => .ok found
      | none => .error .notFound

/-- What an absolute path leads to. -/
def find (tree : FileTree) (path : Path) : Except ReadError TreeEntry :=
  path.pieces.foldlM tree.step (.directory [])

/-- The absolute path of a location, without detours. -/
def pathOf (location : Location) : Path :=
  ⟨"/" ++ "/".intercalate location⟩

/-- The path without detours of the directory that a path leads to. -/
def directory? (tree : FileTree) (path : Path) : Option Path :=
  match tree.find path with
  | .ok (.directory location) => some (pathOf location)
  | _ => none

/-- The path leads to a file. -/
def isFile (tree : FileTree) (path : Path) : Bool :=
  match tree.find path with
  | .ok (.file _) => true
  | _ => false

/-- The text of the file that a path leads to. -/
def read (tree : FileTree) (path : Path) : Except ReadError String :=
  match tree.find path with
  | .error error => .error error
  | .ok (.directory _) => .error .isDirectory
  | .ok (.file bytes) =>
    match String.fromUTF8? bytes with
    | some text => .ok text
    | none => .error .notText

/-- The tree as a file system. -/
def fileSystem (tree : FileTree) : FileSystem :=
  ⟨tree.isFile, tree.read⟩

/-- The tree with one more file. -/
def addFile (tree : FileTree) (path : Path) (bytes : ByteArray) : FileTree :=
  { tree with files := tree.files ++ [(locationOf path, bytes)] }

/-- The tree with one more directory. -/
def addDirectory (tree : FileTree) (path : Path) : FileTree :=
  { tree with directories := tree.directories ++ [locationOf path] }

/-- The tree with nothing in it. -/
def empty : FileTree := ⟨[], []⟩

end FileTree

end BuildSettings
