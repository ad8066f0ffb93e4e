/-
# The command line program

Runs the program on the files, the working directory and the environment of the
process: output goes to standard output, failures and usage errors to standard
error, and the status says which of them it was.
-/

import BuildSettings.Command.Run

namespace BuildSettings

/-- The number of an error, which some calls report as a negative word. -/
def errorNumber (code : UInt32) : UInt32 :=
  if code < 0x80000000 then code else 0 - code

/-- An error of the operating system by its number, and in its words. -/
def readErrorOfCode (code : UInt32) (details : String) : ReadError :=
  let code := errorNumber code
  if code = 2 then .notFound
  else if code = 20 then .notDirectory
  else if code = 21 then .isDirectory
  else if code = 36 then .nameTooLong
  else .other (details ++ " (os error " ++ toString code ++ ")")

/-- An error of the operating system as an error about a file. -/
def readErrorOf (error : IO.Error) : ReadError :=
  match error with
  | .noFileOrDirectory _ code details | .interrupted _ code details
  | .invalidArgument _ code details | .permissionDenied _ code details
  | .resourceExhausted _ code details | .inappropriateType _ code details
  | .noSuchThing _ code details | .alreadyExists _ code details
  | .otherError code details | .resourceBusy code details | .resourceVanished code details
  | .unsupportedOperation code details | .hardwareFault code details
  | .illegalOperation code details | .protocolError code details | .timeExpired code details
  | .unsatisfiedConstraints code details => readErrorOfCode code details
  | .unexpectedEof | .userError _ => .other (toString error)

/-- Read a file of the operating system as text. -/
def readFileText (path : Path) : IO (Except ReadError String) := do
  if path.spelling.toList.contains '\x00' then
    return .error .nulInPath
  try
    let bytes ← IO.FS.readBinFile path.spelling
    match String.fromUTF8? bytes with
    | some text => return .ok text
    | none => return .error .notText
  catch error => return .error (readErrorOf error)

/-- A path is taken for a regular file when it can be opened and read from. -/
def isReadableFile (path : Path) : IO Bool := do
  if path.spelling.toList.contains '\x00' then
    return false
  try
    let handle ← IO.FS.Handle.mk path.spelling .read
    let _ ← handle.read 1
    return true
  catch _ => return false

/-- The surroundings of the process. -/
def processHost : Host IO where
  workingDir := do
    try
      return .ok ⟨(← IO.currentDir).toString⟩
    catch error => return .error (readErrorOf error)
  isFile := isReadableFile
  read := readFileText
  getVariable key := if key.toList.contains '\x00' then pure none else IO.getEnv key

/-- Print an outcome: the output, or what went wrong and the advice for it. -/
def printOutcome (outcome : Outcome) : IO Unit := do
  IO.print outcome.output
  match outcome with
  | .success _ => pure ()
  | .failed failure =>
    IO.eprintln ("Error: " ++ failure.display)
    if let some help := failure.help? then
      IO.eprintln ("  help: " ++ help)
  | .misused error => IO.eprintln ("error: " ++ error.message)

end BuildSettings

/-- Run the program on the arguments of the process. -/
def main (arguments : List String) : IO UInt32 := do
  let outcome ← BuildSettings.runProgram BuildSettings.processHost arguments
  BuildSettings.printOutcome outcome
  return outcome.status
