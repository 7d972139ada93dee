import GoScaffold.Catalog.Basic

/-!
# Labels

A label names one thing that can be generated from a catalog, as a line of text
that an editor shows and hands back: `User Get name ( string )`,
`User Set name ( string )`, `User Constructor`, `User Builder`, or the bare name of
an interface.
-/

namespace GoScaffold

/-- What a line offered for selection stands for. -/
inductive Label where
  | getter (type field fieldType : Text)
  | setter (type field fieldType : Text)
  | constructor (type : Text)
  | builder (type : Text)
  | bare (name : Text)
  deriving DecidableEq, Repr

namespace Label

/-! ### Writing -/

def accessorText (type action field fieldType : Text) : Text :=
  type ++ [' '] ++ action ++ [' '] ++ field ++ " ( " ++ fieldType ++ " )"

def text : Label → Text
  | getter type field fieldType => accessorText type "Get" field fieldType
  | setter type field fieldType => accessorText type "Set" field fieldType
  | constructor type => type ++ " Constructor"
  | builder type => type ++ " Builder"
  | bare name => name

/-! ### Reading -/

inductive Error where
  | empty
  | unknownAction (label action : Text)
  | malformedAccessor (label : Text)
  deriving DecidableEq, Repr

def Error.message : Error → Text
  | empty => "Empty label"
  | unknownAction label action => "Unknown action \x60" ++ action ++ "\x60 in label \x60" ++ label ++ "\x60"
  | malformedAccessor label =>
    "Malformed accessor label \x60" ++ label ++ "\x60: expected \x60<Type> Get|Set <field> ( <type> )\x60"

/-- The field and the type in the words `field ( type … )`. -/
def accessorOperands? : List Text → Option (Text × Text)
  | field :: opening :: rest =>
    if opening = ['('] ∧ rest.getLast? = some [')'] ∧ rest.dropLast ≠ [] then
      some (field, Text.join [' '] rest.dropLast)
    else none
  | _ => none

/-- The label of the words of a text. -/
def ofWords (text : Text) : List Text → Except Error Label
  | [] => .error .empty
  | [name] => .ok (bare name)
  | type :: action :: operands =>
    if action = ("Get" : Text) ∨ action = ("Set" : Text) then
      match accessorOperands? operands with
      | some (field, fieldType) =>
        .ok (if action = ("Get" : Text) then getter type field fieldType else setter type field fieldType)
      | none => .error (.malformedAccessor text)
    else if action = ("Constructor" : Text) ∧ operands = [] then .ok (constructor type)
    else if action = ("Builder" : Text) ∧ operands = [] then .ok (builder type)
    else .error (.unknownAction text action)

/-- Reads a label word by word, so the blanks between the words do not matter. -/
def ofText (text : Text) : Except Error Label :=
  ofWords text (Text.words text)

end Label

/-! ### Offering -/

/-- The labels of a struct: two for each field, then its constructor and its builder. -/
def Struct.labels (struct : Struct) : List Label :=
  (struct.fields.flatMap fun field =>
    [Label.getter struct.name field.name field.type, Label.setter struct.name field.name field.type]) ++
  [Label.constructor struct.name, Label.builder struct.name]

/-- The labels of all structs, then the names of the interfaces. -/
def Catalog.labels (catalog : Catalog) : List Label :=
  catalog.structs.flatMap Struct.labels ++ catalog.interfaces.map fun interface => Label.bare interface.name

end GoScaffold
