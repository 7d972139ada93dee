import GoScaffold.Catalog.Listing
import GoScaffold.Catalog.OfSource
import GoScaffold.CommandLine.Arguments
import GoScaffold.CommandLine.Folder
import GoScaffold.Request

/-!
# A run of the program

A run reads at most one file and delivers its whole result to one place: the
standard output, or the file that was asked for.  A run that fails changes
nothing.
-/

namespace GoScaffold.CommandLine

/-! ### Failures -/

/-- Why a run fails although its arguments are in order. -/
inductive Failure where
  | unreadableInput (path : Text) (cause : FileError)
  | unwritableOutput (path : Text) (cause : FileError)
  | invalidLabel (text : Text) (cause : Label.Error)
  /-- a valid label without code in the catalog -/
  | unusableLabel (label : Label) (cause : GenerateError)
  | refused (error : GenerateError)
  deriving DecidableEq, Repr

namespace Failure

def summary : Failure → Text
  | unreadableInput path _ => "Failed to read input file: " ++ path
  | unwritableOutput path _ => "Failed to write output file: " ++ path
  | invalidLabel text _ => "Invalid label: " ++ text
  | unusableLabel label _ => "Failed to generate code for \x60" ++ label.text ++ "\x60"
  | refused error => error.message

/-- Why it went wrong, where the summary does not say. -/
def cause? : Failure → Option Text
  | unreadableInput _ cause => some cause.message
  | unwritableOutput _ cause => some cause.message
  | invalidLabel _ cause => some cause.message
  | unusableLabel _ cause => some cause.message
  | refused _ => none

/-- Each line of the text behind four spaces. -/
def indented (text : Text) : Text :=
  "    " ++ text.flatMap fun c => if c == '\n' then ("\n    " : Text) else [c]

def report (failure : Failure) : Text :=
  "Error: " ++ failure.summary ++
    (match failure.cause? with
    | some cause => "\n\nCaused by:\n" ++ indented cause
    | none => [])

end Failure

/-! ### Results -/

/-- How input is read: the contents of the file that a text names. -/
abbrev Reader := Text → Except FileError ByteArray

def load (read : Reader) (input : Text) : Except Failure Catalog :=
  match read input >>= decode with
  | .ok source => .ok (Catalog.ofSource source)
  | .error cause => .error (.unreadableInput input cause)

def codeOfLabel (catalog : Catalog) (naming : Naming) (text : Text) : Except Failure Text := do
  let label ← (Label.ofText text).mapError (Failure.invalidLabel text)
  let request ← (Request.ofLabel label naming).mapError Failure.refused
  let fragment ← (catalog.generate request).mapError (Failure.unusableLabel label)
  return fragment.text

def Command.input? : Command → Option Text
  | list input => some input
  | extract input => some input
  | generate input _ _ => some input
  | implement input _ _ => some input
  | handler _ _ => none

def Command.result (read : Reader) : Command → Except Failure Text
  | list input => do
    let catalog ← load read input
    return Text.join ['\n'] (catalog.labels.map Label.text)
  | extract input => do
    let catalog ← load read input
    return catalog.listing
  | generate input labels naming => do
    let catalog ← load read input
    let fragments ← labels.mapM (codeOfLabel catalog naming)
    return fragments.flatten
  | implement input interface target => do
    let catalog ← load read input
    let fragment ← (catalog.generate (.stubs interface target)).mapError Failure.refused
    return fragment.text
  | handler target verbs => do
    let verbs ← (Verb.ofList verbs).mapError Failure.refused
    let fragment ← (Catalog.empty.generate (.handler target verbs)).mapError Failure.refused
    return fragment.text

/-! ### Runs -/

inductive Reply where
  /-- the text on the standard output -/
  | done (stdout : Text)
  | misused
  | failed (failure : Failure)
  deriving DecidableEq, Repr

/-- The line that names the program and its version. -/
def versionLine : Level → Text
  | .top => "gogen 0.1.0\n"
  | .within subcommand => "gogen-" ++ subcommand.name ++ " \n"

def usage : Text :=
  "USAGE:\n" ++
  "    gogen list <INPUT>\n" ++
  "    gogen extract <INPUT>\n" ++
  "    gogen generate <INPUT> --label <LABEL>... [--verbatim]\n" ++
  "    gogen implement <INPUT> --interface <NAME> --type <NAME>\n" ++
  "    gogen handler --type <NAME> [--verbs <LIST>]\n" ++
  "\n" ++
  "OPTIONS:\n" ++
  "    -o, --output <FILE>    Write the result to FILE instead of stdout\n" ++
  "    -v, --verbose          Accepted with every subcommand\n" ++
  "    -h, --help             Print this text\n" ++
  "    -V, --version          Print the version\n"

/-- What a run says that reads no command. -/
def Stop.reply : Stop → Reply
  | usage => .misused
  | help => .done CommandLine.usage
  | version level => .done (versionLine level)

namespace Reply

/-- What a run writes to the standard output. -/
def stdout : Reply → Text
  | done stdout => stdout
  | _ => []

/-- What a run writes to the standard error. -/
def stderr : Reply → Text
  | done _ => []
  | misused => usage
  | failed failure => failure.report ++ ['\n']

/-- The exit code; a failure is any but zero. -/
def exitCode : Reply → UInt32
  | done _ => 0
  | _ => 1

end Reply

/-- How a run reads and writes files, be it on a disk or in a folder that is a value. -/
structure FileAccess (m : Type → Type) where
  read : Text → m (Except FileError ByteArray)
  write : Text → ByteArray → m (Except FileError Unit)

section

variable {m : Type → Type} [Monad m] (files : FileAccess m)

/-- Reads the one file that a command is about. -/
def Command.readInput (command : Command) : m (Except FileError ByteArray) :=
  match command.input? with
  | some input => files.read input
  | none => return .error .notFound

/-- Delivers the text of a command to the output file, or else to the standard output. -/
def deliverText (output? : Option Text) (text : Text) : m Reply := do
  match output? with
  | none => return .done (text ++ ['\n'])
  | some path =>
    match ← files.write path (encode text) with
    | .ok () => return .done []
    | .error cause => return .failed (.unwritableOutput path cause)

/-- Runs an invocation.  Writing is the last thing it does, when nothing else can fail. -/
def Invocation.perform (invocation : Invocation) : m Reply := do
  let contents ← invocation.command.readInput files
  match invocation.command.result (fun _ => contents) with
  | .ok text => deliverText files invocation.output? text
  | .error failure => return .failed failure

/-- Runs the program with its arguments. -/
def perform (arguments : List Text) : m Reply :=
  match Invocation.ofArguments arguments with
  | .error stop => return stop.reply
  | .ok invocation => invocation.perform files

end

/-- The files of the folder that is the state; a file that cannot be written leaves it as it is. -/
def Folder.access : FileAccess (StateM Folder) where
  read text := fun folder => (folder.read text, folder)
  write text contents := fun folder =>
    match folder.write text contents with
    | .ok after => (.ok (), after)
    | .error cause => (.error cause, folder)

/-- Runs the program with its arguments in a folder; gives the folder afterwards. -/
def run (arguments : List Text) (folder : Folder) : Reply × Folder :=
  (perform Folder.access arguments).run folder

end GoScaffold.CommandLine
