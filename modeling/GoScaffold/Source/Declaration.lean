import GoScaffold.Source.Token

/-!
# Declarations in a source text

A source text is cut into segments from left to right: a declaration
`type Name struct { … }` or `type Name interface { … }` where one starts, else a
comment or literal, else a word, else a single character.  Stepping over words
as a whole means that a declaration starts only at the beginning of a word.
-/

namespace GoScaffold.Source

/-! ### The header -/

inductive Kind where
  | struct
  | interface
  deriving DecidableEq, Repr

def isGap (c : Char) : Bool :=
  c == ' ' || c == '\t'

/-- An ASCII letter or digit, or the underscore. -/
def isWordChar (c : Char) : Bool :=
  c.isAlphanum || c == '_'

/-- The text behind one or more spaces and tabs. -/
def gap? : Text → Option Text
  | [] => none
  | c :: rest => if isGap c then some (rest.dropWhile isGap) else none

/-- An ASCII identifier and the text behind it. -/
def name? : Text → Option (Text × Text)
  | [] => none
  | c :: rest =>
    if c.isAlpha || c == '_' then
      some (c :: rest.takeWhile isWordChar, rest.dropWhile isWordChar)
    else none

def kind? (text : Text) : Option (Kind × Text) :=
  match List.isPrefixOf? ("struct" : Text) text with
  | some rest => some (.struct, rest)
  | none => (List.isPrefixOf? ("interface" : Text) text).map fun rest => (.interface, rest)

/-- The text behind a `{` that may follow spaces and tabs. -/
def openBrace? (text : Text) : Option Text :=
  match text.dropWhile isGap with
  | [] => none
  | c :: rest => if c == '{' then some rest else none

structure Header where
  name : Text
  kind : Kind
  deriving DecidableEq, Repr

/-- Reads `type Name struct {` or `type Name interface {`; gives the text behind it. -/
def header? (text : Text) : Option (Header × Text) := do
  let text ← List.isPrefixOf? ("type" : Text) text
  let text ← gap? text
  let (name, text) ← name? text
  let text ← gap? text
  let (kind, text) ← kind? text
  let text ← openBrace? text
  return (⟨name, kind⟩, text)

/-! ### The body -/

/-- The text up to the `}` that closes the body which starts here; its first `skip`
characters are already read.  A body is a sequence of comments, literals, blocks
`{ … }` with a body of their own, and characters other than braces. -/
def body? : Nat → Text → Option Text
  | _, [] => none
  | skip + 1, c :: rest => (body? skip rest).map (c :: ·)
  | 0, c :: rest =>
    match token? (c :: rest) with
    | some lexeme => (body? (lexeme.length - 1) rest).map (c :: ·)
    | none =>
      if c == '}' then some []
      else if c == '{' then
        match body? 0 rest with
        | some block => (body? (block.length + 1) rest).map (c :: ·)
        | none => none
      else (body? 0 rest).map (c :: ·)

structure Declaration where
  header : Header
  body : Text
  deriving DecidableEq, Repr

/-- The declaration at the front of the text, and how many characters it has. -/
def declaration? (text : Text) : Option (Declaration × Nat) := do
  let (header, rest) ← header? text
  let body ← body? 0 rest
  return (⟨header, body⟩, text.length - rest.length + body.length + 1)

/-! ### Segments -/

inductive Segment where
  | declaration (declared : Declaration) (text : Text)
  /-- a comment or literal outside the declarations -/
  | token (text : Text)
  | word (text : Text)
  | single (c : Char)
  deriving DecidableEq, Repr

def Segment.text : Segment → Text
  | .declaration _ text => text
  | .token text => text
  | .word text => text
  | .single c => [c]

def Segment.declared? : Segment → Option Declaration
  | .declaration declared _ => some declared
  | _ => none

/-- The segment at the front of `c :: rest`. -/
def Segment.first (c : Char) (rest : Text) : Segment :=
  match declaration? (c :: rest) with
  | some (declared, length) => .declaration declared ((c :: rest).take length)
  | none =>
    match token? (c :: rest) with
    | some lexeme => .token lexeme
    | none =>
      if isWordChar c then .word (c :: rest.takeWhile isWordChar) else .single c

/-- The segments of a text whose first `skip` characters are already read. -/
def segmentsFrom : Nat → Text → List Segment
  | _, [] => []
  | skip + 1, _ :: rest => segmentsFrom skip rest
  | 0, c :: rest =>
    let segment := Segment.first c rest
    segment :: segmentsFrom (segment.text.length - 1) rest

def segments (text : Text) : List Segment :=
  segmentsFrom 0 text

def declarations (text : Text) : List Declaration :=
  (segments text).filterMap Segment.declared?

/-! ### The nesting limit

Blocks are read by recursion, so their depth is limited beforehand: braces that
open deeper than the limit become spaces, and so do the braces that close them.
The text keeps its length, and the enclosing blocks stay balanced. -/

/-- The deepest nesting of braces that is read. -/
def nestingLimit : Nat := 256

/-- Limits a text that starts inside `depth` open braces and `blanked` blanked ones. -/
def limitNestingFrom (limit depth blanked : Nat) : Text → Text
  | [] => []
  | c :: rest =>
    if c == '{' then
      if limit ≤ depth then ' ' :: limitNestingFrom limit depth (blanked + 1) rest
      else c :: limitNestingFrom limit (depth + 1) blanked rest
    else if c == '}' then
      if 0 < blanked then ' ' :: limitNestingFrom limit depth (blanked - 1) rest
      else c :: limitNestingFrom limit (depth - 1) blanked rest
    else c :: limitNestingFrom limit depth blanked rest

/-- Blanks the braces nested deeper than `limit`.  All braces count here, also those
in comments and literals. -/
def limitNesting (limit : Nat) (text : Text) : Text :=
  limitNestingFrom limit 0 0 text

end GoScaffold.Source
