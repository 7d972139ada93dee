import GoScaffold.Identifier.Basic
import GoScaffold.Text.Basic

/-!
# Parameter lists

Go lets consecutive parameters share one type (`a, b int`) and lets a method of
an interface leave the names out (`int, string`).  Here every parameter gets a
name and a type.
-/

namespace GoScaffold

structure Param where
  name : Text
  type : Text
  deriving DecidableEq, Repr

/-- Go declares a parameter as `name type`. -/
def Param.declaration (param : Param) : Text :=
  param.name ++ [' '] ++ param.type

namespace Param

/-! ### Reading the entries -/

/-- One entry between the commas of a parameter list. -/
inductive Entry where
  /-- a name and a type: `n int` -/
  | named (name type : Text)
  /-- several words of which the first is no identifier: a type such as `func() error` -/
  | typed (type : Text)
  /-- one word: a type, or a name that shares the type of a later entry -/
  | bare (word : Text)
  deriving DecidableEq, Repr

def Entry.of (text : Text) : Entry :=
  match text.splitAtBlank? with
  | none => .bare text
  | some (first, rest) =>
    if isIdentifier first then .named first rest.collapse else .typed text.collapse

/-- The entries of a parameter list; blank ones are left out. -/
def entries (list : Text) : List Entry :=
  (((Text.splitOutside ',' list).map Text.trim).filter fun entry => !entry.isEmpty).map Entry.of

def Entry.namedType? : Entry → Option Text
  | .named _ type => some type
  | _ => none

/-! ### Sharing types -/

/-- A parameter whose name may be missing. -/
structure Slot where
  name? : Option Text
  type : Text
  deriving DecidableEq, Repr

/-- A bare word is a name when some later entry has a name and a type, and then has
the type of the first such entry; otherwise it is a type. -/
def settle : List Entry → List Slot
  | [] => []
  | .named name type :: rest => ⟨some name, type⟩ :: settle rest
  | .typed type :: rest => ⟨none, type⟩ :: settle rest
  | .bare word :: rest =>
    match rest.findSome? Entry.namedType? with
    | some type => ⟨some word, type⟩ :: settle rest
    | none => ⟨none, word⟩ :: settle rest

/-! ### Naming -/

/-- One of the characters that stand before the name of a type: `*T`, `[]T`, `...T`, `&T`. -/
def isTypePrefix (c : Char) : Bool :=
  c == '*' || c == '[' || c == ']' || c == '.' || c == '&'

/-- A name for a parameter of a type: the last part of its qualified name, with a
lowercase first letter, or `arg` when that is no identifier. -/
def nameOfType (type : Text) : Text :=
  let qualified := (type.dropWhile isTypePrefix).takeWhile fun c => isIdentifierPart c || c == '.'
  let name := decapitalize ((Text.splitOn (· == '.') qualified).getLast?.getD [])
  if isIdentifier name then name else "arg"

/-- Gives every slot without a name one that avoids `used` and the names given before. -/
def fill (used : List Text) : List Slot → List Param
  | [] => []
  | ⟨some name, type⟩ :: rest => ⟨name, type⟩ :: fill used rest
  | ⟨none, type⟩ :: rest =>
    let name := freshNumbered (nameOfType type) used
    ⟨name, type⟩ :: fill (name :: used) rest

/-- The parameters of a list, all named.  A name that is made up avoids the names
written in the list and those in `reserved`. -/
def ofList (list : Text) (reserved : List Text) : List Param :=
  let slots := settle (entries list)
  fill (slots.filterMap Slot.name? ++ reserved) slots

/-! ### Results -/

/-- The text inside the parentheses around a result list. -/
def parenthesized? (text : Text) : Option Text :=
  match text with
  | '(' :: rest => if rest.getLast? = some ')' then some rest.dropLast else none
  | _ => none

/-- The names that a result list such as `(n int, err error)` declares.  A single
type and a list of types declare none. -/
def resultNames (result : Text) : List Text :=
  match parenthesized? result.trim with
  | none => []
  | some list =>
    if (entries list).any fun entry => entry.namedType?.isSome then
      (ofList list []).map Param.name
    else
      []

end Param

end GoScaffold
