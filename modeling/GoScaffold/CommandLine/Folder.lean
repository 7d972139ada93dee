import GoScaffold.Catalog.Basic
import GoScaffold.Text.Basic

/-!
# Files

What the program sees of a file system: the files below the folder that it runs in.
Of what lies outside, only the folders above are known to exist.
-/

namespace GoScaffold.CommandLine

/-- Why a file cannot be read or written. -/
inductive FileError where
  | notFound
  | notDirectory
  | isDirectory
  | invalidEncoding
  /-- any other answer of the system, in its own words -/
  | other (description : Text)
  deriving DecidableEq, Repr

def FileError.message : FileError → Text
  | notFound => "No such file or directory (os error 2)"
  | notDirectory => "Not a directory (os error 20)"
  | isDirectory => "Is a directory (os error 21)"
  | invalidEncoding => "stream did not contain valid UTF-8"
  | other description => description

/-- The names from the folder down to a file. -/
abbrev Path := List Text

/-- The files below a folder, with their contents. -/
structure Folder where
  files : List (Path × ByteArray)

namespace Folder

def contents? (folder : Folder) (path : Path) : Option ByteArray :=
  (Keyed.get? Prod.fst path folder.files).map Prod.snd

/-- Is there a folder at the path?  Folders exist where files are below them. -/
def isFolder (folder : Folder) (path : Path) : Bool :=
  path.isEmpty || folder.files.any fun (file, _) => path.isPrefixOf file && path != file

/-- Follows names from the folder `here`.  Each name but the last must lead to a
folder; above the outermost folder only the folders further up are known. -/
def follow (folder : Folder) (here : Path) : List Text → Except FileError Path
  | [] => .ok here
  | name :: rest =>
    if !folder.isFolder here then
      .error (if (folder.contents? here).isSome then .notDirectory else .notFound)
    else if name = ['.'] then follow folder here rest
    else if name = ['.', '.'] then
      if here = [] then (if rest.all (· == ['.', '.']) then .ok [] else .error .notFound)
      else follow folder here.dropLast rest
    else follow folder (here ++ [name]) rest

/-- The path that a text names, whether or not there is a file. -/
def locate (folder : Folder) (text : Text) : Except FileError Path :=
  let names := (Text.splitOn (· == '/') text).filter fun name => !name.isEmpty
  match text with
  | [] => .error .notFound
  | '/' :: _ =>
    if names.all fun name => name == ['.'] || name == ['.', '.'] then .ok [] else .error .notFound
  | _ => folder.follow [] names

/-- Does a text name a folder by its last character? -/
def endsInSlash (text : Text) : Bool :=
  text.getLast? == some '/'

def read (folder : Folder) (text : Text) : Except FileError ByteArray := do
  let path ← folder.locate text
  match folder.contents? path with
  | some contents => if endsInSlash text then .error .notDirectory else .ok contents
  | none => .error (if folder.isFolder path then .isDirectory else .notFound)

/-- The folder after writing the file that a text names, in the place of one that is there. -/
def write (folder : Folder) (text : Text) (contents : ByteArray) : Except FileError Folder := do
  let path ← folder.locate text
  if folder.isFolder path || endsInSlash text then .error .isDirectory
  else .ok ⟨Keyed.put Prod.fst (path, contents) folder.files⟩

end Folder

/-! ### Encoding -/

def encode (text : Text) : ByteArray :=
  (String.ofList text).toUTF8

def decode (contents : ByteArray) : Except FileError Text :=
  match String.fromUTF8? contents with
  | some text => .ok text.toList
  | none => .error .invalidEncoding

end GoScaffold.CommandLine
