import GoScaffold.CommandLine.Run

/-!
# The program

Runs on the files of the disk and delivers the reply.
-/

namespace GoScaffold.CommandLine

/-- Is `code` the error number `number`?  Some calls of the system give it negated. -/
def isErrorNumber (number code : UInt32) : Bool :=
  code == number || code == 0 - number

def FileError.ofSystem : IO.Error → FileError
  | .noFileOrDirectory .. => .notFound
  | .inappropriateType file code details =>
    if isErrorNumber 20 code then .notDirectory
    else if isErrorNumber 21 code then .isDirectory
    else .other (toString (IO.Error.inappropriateType file code details))
  | error => .other (toString error)

def readFile (path : Text) : IO (Except FileError ByteArray) := do
  match ← (IO.FS.readBinFile (String.ofList path)).toBaseIO with
  | .ok contents => return .ok contents
  | .error error => return .error (FileError.ofSystem error)

def writeFile (path : Text) (contents : ByteArray) : IO (Except FileError Unit) := do
  match ← (IO.FS.writeBinFile (String.ofList path) contents).toBaseIO with
  | .ok _ => return .ok ()
  | .error error => return .error (FileError.ofSystem error)

/-- The files on the disk, from the folder of the process. -/
def disk : FileAccess IO where
  read := readFile
  write := writeFile

/-- Prints a reply and gives the exit code. -/
def deliver (reply : Reply) : IO UInt32 := do
  IO.print (String.ofList reply.stdout)
  IO.eprint (String.ofList reply.stderr)
  return reply.exitCode

end GoScaffold.CommandLine

open GoScaffold.CommandLine in
def main (arguments : List String) : IO UInt32 := do
  deliver (← perform disk (arguments.map String.toList))
