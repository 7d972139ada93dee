import GoScaffold.Text.Basic

/-!
# Member lines

The body of a declaration is a list of members.  A line feed or `;` ends a member
only outside brackets, so an inline `struct { … }` and a function type on several
lines stay with the member that declares them.  Comments and field tags are
dropped.

The reader is a machine over single characters.  What it writes is a list of
marks: characters of a member, and ends of members.
-/

namespace GoScaffold.Source

inductive Mark where
  | char (c : Char)
  | memberEnd
  deriving DecidableEq, Repr

/-- What kind of text the next character belongs to. -/
inductive Mode where
  | code
  /-- behind a `/` that may start a comment -/
  | slash
  | lineComment
  /-- in a block comment; `star` tells whether the character before was its `*` -/
  | blockComment (star : Bool)
  /-- in a field tag between backticks -/
  | tag
  | string
  /-- behind a backslash in a string -/
  | escape
  deriving DecidableEq, Repr

structure Place where
  mode : Mode
  depth : Nat
  deriving DecidableEq, Repr

def Place.start : Place := ⟨.code, 0⟩

/-! ### One character -/

/-- The place behind the character `c` of the code at depth `depth`. -/
def Place.afterCode (depth : Nat) (c : Char) : Place :=
  if c == '/' then ⟨.slash, depth⟩
  else if c == '\x60' then ⟨.tag, depth⟩
  else if c == '"' then ⟨.string, depth⟩
  else ⟨.code, depthAfter depth c⟩

/-- What the character `c` of the code at depth `depth` writes. -/
def marksOfCode (depth : Nat) (c : Char) : List Mark :=
  if c == '/' || c == '\x60' then []
  else if (c == '\n' || c == ';') && depth == 0 then [.memberEnd]
  else if c == '\n' || c == '\r' || c == '\t' then [.char ' ']
  else [.char c]

/-- The place behind the next character. -/
def Place.next (place : Place) (c : Char) : Place :=
  match place.mode with
  | .code => afterCode place.depth c
  | .slash =>
    if c == '/' then { place with mode := .lineComment }
    else if c == '*' then { place with mode := .blockComment false }
    else afterCode place.depth c
  | .lineComment => if c == '\n' then afterCode place.depth c else place
  | .blockComment star =>
    if star && c == '/' then { place with mode := .code }
    else { place with mode := .blockComment (c == '*') }
  | .tag => if c == '\x60' then { place with mode := .code } else place
  | .string =>
    if c == '\\' then { place with mode := .escape }
    else if c == '"' || c == '\n' then { place with mode := .code }
    else place
  | .escape => { place with mode := .string }

/-- What the next character writes.  A block comment counts as one space. -/
def Place.marks (place : Place) (c : Char) : List Mark :=
  match place.mode with
  | .code => marksOfCode place.depth c
  | .slash =>
    if c == '/' then []
    else if c == '*' then [.char ' ']
    else .char '/' :: marksOfCode place.depth c
  | .lineComment => if c == '\n' then marksOfCode place.depth c else []
  | .blockComment _ => []
  | .tag => []
  | .string => [.char c]
  | .escape => [.char c]

/-- What the end of the body writes. -/
def Place.pending (place : Place) : List Mark :=
  match place.mode with
  | .slash => [.char '/']
  | _ => []

/-! ### The whole body -/

/-- The marks of a body that goes on from `place`. -/
def marksFrom (place : Place) : Text → List Mark
  | [] => place.pending
  | c :: rest => place.marks c ++ marksFrom (place.next c) rest

def membersOfMarks : List Mark → List Text
  | [] => [[]]
  | .memberEnd :: rest => [] :: membersOfMarks rest
  | .char c :: rest => Text.consFirst c (membersOfMarks rest)

/-- The members of a body, one text each, with blanks collapsed; empty ones are left
out. -/
def memberLines (body : Text) : List Text :=
  ((membersOfMarks (marksFrom Place.start body)).map Text.collapse).filter fun line => !line.isEmpty

end GoScaffold.Source
