import GoScaffold.Unicode.Property

/-!
# Texts

A text is a list of characters.  Readers take it apart by recursion and writers
put it together with `++`; `String` appears only where text enters or leaves
the program.
-/

namespace GoScaffold

abbrev Text := List Char

instance : Coe String Text := ⟨String.toList⟩

namespace Text

open Unicode (isBlank)

/-- The number of bytes of the UTF-8 encoding. -/
def byteSize : Text → Nat
  | [] => 0
  | c :: rest => c.utf8Size + byteSize rest

/-- Puts `c` at the front of the first piece. -/
def consFirst (c : Char) : List Text → List Text
  | [] => [[c]]
  | piece :: pieces => (c :: piece) :: pieces

/-- The pieces between the characters that satisfy `p`, empty pieces included. -/
def splitOn (p : Char → Bool) : Text → List Text
  | [] => [[]]
  | c :: rest => if p c then [] :: splitOn p rest else consFirst c (splitOn p rest)

def join (separator : Text) (pieces : List Text) : Text :=
  separator.intercalate pieces

/-! ### Blanks -/

def trimEnd (text : Text) : Text :=
  (text.reverse.dropWhile isBlank).reverse

def trim (text : Text) : Text :=
  trimEnd (text.dropWhile isBlank)

/-- The maximal runs of characters that are not blank. -/
def words (text : Text) : List Text :=
  (splitOn isBlank text).filter fun word => !word.isEmpty

/-- The words with one space between each two. -/
def collapse (text : Text) : Text :=
  join [' '] (words text)

/-- The text before the first blank and the text after it, when there is a blank. -/
def splitAtBlank? (text : Text) : Option (Text × Text) :=
  match text.dropWhile (fun c => !isBlank c) with
  | [] => none
  | _ :: rest => some (text.takeWhile (fun c => !isBlank c), rest)

end Text

/-! ### Brackets

Go separates parameters and members by commas and line ends, but only outside
brackets.  A closing bracket that nothing opened is an ordinary character, so
the depth never falls below zero. -/

def isOpening (c : Char) : Bool :=
  c == '(' || c == '[' || c == '{'

def isClosing (c : Char) : Bool :=
  c == ')' || c == ']' || c == '}'

/-- The bracket depth after `c` at depth `depth`. -/
def depthAfter (depth : Nat) (c : Char) : Nat :=
  if isOpening c then depth + 1 else if isClosing c then depth - 1 else depth

namespace Text

/-! ### Pieces outside brackets -/

/-- The pieces of a text that starts at depth `depth`. -/
def splitOutsideFrom (separator : Char) (depth : Nat) : Text → List Text
  | [] => [[]]
  | c :: rest =>
    if c == separator && depth == 0 && !isOpening c && !isClosing c then
      [] :: splitOutsideFrom separator depth rest
    else
      consFirst c (splitOutsideFrom separator (depthAfter depth c) rest)

/-- The pieces between the separators outside brackets.  A bracket separates nothing. -/
def splitOutside (separator : Char) (text : Text) : List Text :=
  splitOutsideFrom separator 0 text

/-! ### The first pair of parentheses -/

/-- Cuts a text that starts inside `depth` parentheses behind the `)` that brings
the depth to zero. -/
def splitClosedFrom? (depth : Nat) : Text → Option (Text × Text)
  | [] => none
  | c :: rest =>
    if c == ')' && depth == 1 then some ([c], rest)
    else
      let next := if c == '(' then depth + 1 else if c == ')' then depth - 1 else depth
      (splitClosedFrom? next rest).map fun (closed, after) => (c :: closed, after)

/-- Cuts the text behind the `)` that closes its first `(`. -/
def splitClosed? (text : Text) : Option (Text × Text) :=
  splitClosedFrom? 0 text

/-- The byte position of the `)` that closes the first `(`. -/
def closingPosition? (text : Text) : Option Nat :=
  (splitClosed? text).map fun (closed, _) => byteSize closed.dropLast

end Text

end GoScaffold
