import GoScaffold.Text.Basic
import GoScaffold.Unicode.Casing

/-!
# Go identifiers

What counts as an identifier, which ones are private to their package, the
change of the first letter between a field and the method that exports it, and names
that are still free.
-/

namespace GoScaffold

open Unicode

def keywords : List Text := [
  "break", "case", "chan", "const", "continue", "default", "defer", "else", "fallthrough",
  "for", "func", "go", "goto", "if", "import", "interface", "map", "package", "range",
  "return", "select", "struct", "switch", "type", "var"]

def isKeyword (text : Text) : Bool :=
  keywords.contains text

def isIdentifierStart (c : Char) : Bool :=
  isAlphabetic c || c == '_'

def isIdentifierPart (c : Char) : Bool :=
  isAlphabetic c || isNumeric c || c == '_'

/-- A letter or underscore followed by letters, digits and underscores, and no
reserved word. -/
def isIdentifier : Text → Bool
  | [] => false
  | c :: rest => isIdentifierStart c && rest.all isIdentifierPart && !isKeyword (c :: rest)

/-- Does the trimmed text start with a letter that is not uppercase?  Go exports a
name whose first letter is uppercase and keeps every other name to its package. -/
def isPrivate (text : Text) : Bool :=
  match text.trim with
  | [] => false
  | c :: _ => isAlphabetic c && !isUppercase c

def capitalize : Text → Text
  | [] => []
  | c :: rest => uppercase c ++ rest

def decapitalize : Text → Text
  | [] => []
  | c :: rest => lowercase c ++ rest

/-! ### Receivers

Generated methods declare a receiver, and parameters written as bare types need
names.  Both are the first free name of a list of candidates.  A list of
candidates without repetitions that is longer than the names to avoid holds a
free one, so each search is bounded by the number of names to avoid. -/

/-- Can `name` be declared beside the names in `taken`? -/
def isFree (taken : List Text) (name : Text) : Bool :=
  isIdentifier name && !taken.contains name

/-- The non-empty prefixes, from the shortest. -/
def initials (name : Text) : List Text :=
  (List.range name.length).map fun n => name.take (n + 1)

/-- What gets underscores when no initials are free: the name with one underscore,
or `recv` for the empty name. -/
def receiverStem (name : Text) : Text :=
  if name.isEmpty then "recv" else name ++ ['_']

/-- The receivers to try for a type of the (decapitalized) name `name`: its initials,
then its stem with more and more underscores. -/
def receiverCandidates (name : Text) (bound : Nat) : List Text :=
  initials name ++ (List.range (bound + 1)).map fun n => receiverStem name ++ List.replicate n '_'

/-- The first receiver for `type` that is free beside `taken`.  There is none when
no initials are an identifier and the stem is no identifier either, as for `*T`. -/
def receiver? (type : Text) (taken : List Text) : Option Text :=
  (receiverCandidates (decapitalize type) taken.length).find? (isFree taken)

/-- The receiver for `type` beside `taken`; the stem when none is free. -/
def receiver (type : Text) (taken : List Text) : Text :=
  (receiver? type taken).getD (receiverStem (decapitalize type))

/-! ### Numbered names -/

/-- The `n`-th of the names `base`, `base1`, `base2`, … -/
def numbered (base : Text) (n : Nat) : Text :=
  if n = 0 then base else base ++ Nat.toDigits 10 n

/-- The first of `base`, `base1`, `base2`, … that is not in `used`. -/
def freshNumbered (base : Text) (used : List Text) : Text :=
  numbered base
    (((List.range (used.length + 1)).find? fun n => !used.contains (numbered base n)).getD 0)

end GoScaffold
