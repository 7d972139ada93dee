import GoScaffold.Text.Basic

/-!
# Catalogs

A catalog holds the structs and the interfaces of a source file, each kind in the
order of first appearance.  A struct and an interface may have the same name.
Something that appears again keeps its place and takes the later content.
-/

namespace GoScaffold

/-! ### Lists keyed by a name -/

namespace Keyed

variable {α κ : Type} [DecidableEq κ]

/-- Replaces the first element that has the key of `a`, or adds `a` at the end. -/
def put (key : α → κ) (a : α) : List α → List α
  | [] => [a]
  | b :: rest => if key b = key a then a :: rest else b :: put key a rest

/-- The first element with the key `k`. -/
def get? (key : α → κ) (k : κ) (elements : List α) : Option α :=
  elements.find? fun a => decide (key a = k)

end Keyed

/-! ### Declarations -/

structure Field where
  name : Text
  type : Text
  deriving DecidableEq, Repr

/-- A struct with its private fields. -/
structure Struct where
  name : Text
  fields : List Field
  deriving DecidableEq, Repr

def Struct.field? (struct : Struct) (name : Text) : Option Field :=
  Keyed.get? Field.name name struct.fields

/-- A method of an interface: `Read(p []byte)` with the results `(n int, err error)`. -/
structure Method where
  signature : Text
  result : Text
  deriving DecidableEq, Repr

/-- The text before the first parenthesis of the signature. -/
def Method.name (method : Method) : Text :=
  Text.trim (method.signature.takeWhile fun c => c != '(')

/-- The text between the first `(` and the last `)` of the signature. -/
def Method.params (method : Method) : Text :=
  let opened := (method.signature.dropWhile fun c => c != '(').drop 1
  ((opened.reverse.dropWhile fun c => c != ')').drop 1).reverse

structure Interface where
  name : Text
  methods : List Method
  deriving DecidableEq, Repr

structure Catalog where
  structs : List Struct
  interfaces : List Interface
  deriving DecidableEq, Repr

namespace Catalog

def empty : Catalog := ⟨[], []⟩

def isEmpty (catalog : Catalog) : Bool :=
  catalog.structs.isEmpty && catalog.interfaces.isEmpty

/-- Adds a struct, in the place of one with the same name if there is one. -/
def insertStruct (catalog : Catalog) (struct : Struct) : Catalog :=
  { catalog with structs := Keyed.put Struct.name struct catalog.structs }

/-- Adds an interface, in the place of one with the same name if there is one. -/
def insertInterface (catalog : Catalog) (interface : Interface) : Catalog :=
  { catalog with interfaces := Keyed.put Interface.name interface catalog.interfaces }

def struct? (catalog : Catalog) (name : Text) : Option Struct :=
  Keyed.get? Struct.name name catalog.structs

def interface? (catalog : Catalog) (name : Text) : Option Interface :=
  Keyed.get? Interface.name name catalog.interfaces

end Catalog

end GoScaffold
