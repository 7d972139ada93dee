import GoScaffold.Catalog.OfSource

/-!
# The listing of a catalog

One line per declaration, followed by its members, each behind a tab.  A line that starts
with a tab is a member of the last declaration in front of it, so a listing can be read
back.
-/

namespace GoScaffold

/-! ### Writing -/

def Field.line (field : Field) : Text :=
  "\t" ++ field.name ++ [' '] ++ field.type

/-- The line of a method; a method without results has no blank at the end. -/
def Method.line (method : Method) : Text :=
  Text.trimEnd ("\t" ++ method.signature ++ [' '] ++ method.result)

def Struct.lines (struct : Struct) : List Text :=
  ("struct " ++ struct.name) :: struct.fields.map Field.line

def Interface.lines (interface : Interface) : List Text :=
  ("interface " ++ interface.name) :: interface.methods.map Method.line

/-- The lines of all structs and then of all interfaces. -/
def Catalog.listing (catalog : Catalog) : Text :=
  Text.join ['\n'] (catalog.structs.flatMap Struct.lines ++ catalog.interfaces.flatMap Interface.lines)

/-! ### Reading -/

/-- The field of a member line of a struct. -/
def Field.ofMember? (text : Text) : Option Field :=
  (Text.splitAtBlank? text).map fun (name, type) => ⟨name, type⟩

/-- The line of a declaration, and the lines of its members without their tabs. -/
structure ListedDeclaration where
  header : Text
  members : List Text
  deriving DecidableEq, Repr

namespace ListedDeclaration

/-- The members in front of the first declaration, and the declarations. -/
def ofLines : List Text → List Text × List ListedDeclaration
  | [] => ([], [])
  | ('\t' :: member) :: rest => (member :: (ofLines rest).1, (ofLines rest).2)
  | header :: rest => ([], ⟨header, (ofLines rest).1⟩ :: (ofLines rest).2)

/-- The declarations of a listing; a listing of nothing is empty. -/
def ofListing (listing : Text) : List ListedDeclaration :=
  (ofLines ((Text.splitOn (· == '\n') listing).filter fun line => !line.isEmpty)).2

def struct? (declaration : ListedDeclaration) : Option Struct :=
  (List.isPrefixOf? ("struct " : Text) declaration.header).map fun name =>
    ⟨name, declaration.members.filterMap Field.ofMember?⟩

def interface? (declaration : ListedDeclaration) : Option Interface :=
  (List.isPrefixOf? ("interface " : Text) declaration.header).map fun name =>
    ⟨name, declaration.members.filterMap Method.ofLine?⟩

end ListedDeclaration

/-- The catalog that a listing tells. -/
def Catalog.ofListing (listing : Text) : Catalog :=
  ⟨(ListedDeclaration.ofListing listing).filterMap ListedDeclaration.struct?,
    (ListedDeclaration.ofListing listing).filterMap ListedDeclaration.interface?⟩

end GoScaffold
