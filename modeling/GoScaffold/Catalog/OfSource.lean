import GoScaffold.Catalog.Basic
import GoScaffold.Identifier.Basic
import GoScaffold.Source.Declaration
import GoScaffold.Source.MemberLine

/-!
# Reading a source file

Every text has a catalog.  A declaration that is not terminated is passed over, and so
are member lines that declare nothing, such as embedded types; a name declared twice
keeps its first place with its last body.
-/

namespace GoScaffold

/-! ### Fields -/

/-- The fields of `a, b, c T`, given the pieces between the commas. -/
def Field.ofShared (pieces : List Text) : List Field :=
  let last := Text.trim (pieces.getLast?.getD [])
  let (lastName, type) :=
    match Text.splitAtBlank? last with
    | some (name, rest) => (name, Text.collapse rest)
    | none => ([], last)
  if type.isEmpty then []
  else
    ((pieces.dropLast.map Text.trim ++ [lastName]).filter fun name => !name.isEmpty).map
      fun name => ⟨name, type⟩

/-- The field of `name T`. -/
def Field.ofSingle (line : Text) : List Field :=
  match Text.splitAtBlank? line with
  | some (name, rest) =>
    if isIdentifier name && !(Text.trim rest).isEmpty then [⟨name, Text.collapse rest⟩] else []
  | none => []

/-- The fields that a member line declares: `a, b T` declares two of type `T`, `a T`
one, and an embedded type none. -/
def Field.ofLine (line : Text) : List Field :=
  let pieces := Text.splitOutside ',' line
  if 1 < pieces.length then ofShared pieces else ofSingle line

/-- The struct with the private fields of a body.  A field declared again keeps its
place and takes the later type. -/
def Struct.ofBody (name body : Text) : Struct :=
  let fields := ((Source.memberLines body).flatMap Field.ofLine).filter fun field => isPrivate field.name
  ⟨name, fields.foldl (fun fields field => Keyed.put Field.name field fields) []⟩

/-! ### Methods -/

/-- The method that a member line declares.  The signature ends with the `)` that
closes its first `(`; a line without one declares no method. -/
def Method.ofLine? (line : Text) : Option Method :=
  (Text.splitClosed? line).map fun (signature, result) => ⟨Text.trim signature, Text.trim result⟩

def Interface.ofBody (name body : Text) : Interface :=
  ⟨name, (Source.memberLines body).filterMap Method.ofLine?⟩

/-! ### Source files -/

namespace Catalog

def insertDeclaration (catalog : Catalog) (declaration : Source.Declaration) : Catalog :=
  match declaration.header.kind with
  | .struct => catalog.insertStruct (Struct.ofBody declaration.header.name declaration.body)
  | .interface => catalog.insertInterface (Interface.ofBody declaration.header.name declaration.body)

def ofDeclarations (declarations : List Source.Declaration) : Catalog :=
  declarations.foldl insertDeclaration empty

/-- The catalog of a source text, whose nesting is limited first. -/
def ofSource (text : Text) : Catalog :=
  ofDeclarations (Source.declarations (Source.limitNesting Source.nestingLimit text))

end Catalog

end GoScaffold
