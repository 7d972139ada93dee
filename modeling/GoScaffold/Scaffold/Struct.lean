import GoScaffold.Catalog.Basic
import GoScaffold.Code.Basic

/-!
# What is generated for a struct

Getters and setters of its fields, its constructor, and its builder.
-/

namespace GoScaffold

open Code

/-! ### Getters and setters -/

inductive Naming where
  /-- The field `count` gets the getter `Count`, which exports it. -/
  | exported
  /-- The getter has the name of the field.  Go refuses a method with the name of a
  field of its type, so this suits a field that is about to be renamed. -/
  | verbatim
  deriving DecidableEq, Repr

def Naming.getterName (naming : Naming) (field : Text) : Text :=
  match naming with
  | exported => capitalize field
  | verbatim => field

def setterName (field : Text) : Text :=
  "Set" ++ capitalize field

/-- The field as a parameter, or as a field of a generated struct. -/
def Field.toParam (field : Field) : Param :=
  ⟨field.name, field.type⟩

/-- The method of `type` that returns a field. -/
def getter (type : Text) (field : Field) (naming : Naming) : Func :=
  let object := receiver type []
  { comment? := none
    receiver? := some ⟨object, pointerTo type⟩
    name := naming.getterName field.name
    params := []
    result? := some field.type
    body := [.giveBack (.field object field.name)] }

/-- The method of `type` that assigns a field.  Its parameter has the name of the
field, so the receiver avoids that name. -/
def setter (type : Text) (field : Field) : Func :=
  let object := receiver type [field.name]
  { comment? := none
    receiver? := some ⟨object, pointerTo type⟩
    name := setterName field.name
    params := [field.toParam]
    result? := none
    body := [.assign object field.name (.name field.name)] }

/-! ### The constructor -/

namespace Struct

def fieldNames (struct : Struct) : List Text :=
  struct.fields.map Field.name

def params (struct : Struct) : List Param :=
  struct.fields.map Field.toParam

/-- The function `NewT`, which takes one parameter for each field, in order. -/
def constructor (struct : Struct) : Func :=
  let object := receiver struct.name struct.fieldNames
  { comment? := none
    receiver? := none
    name := "New" ++ struct.name
    params := struct.params
    result? := some (pointerTo struct.name)
    body := [.define object (.allocate struct.name)] ++
      struct.fieldNames.map (fun field => .assign object field (.name field)) ++
      [.giveBack (.name object)] }

/-! ### The builder -/

def builderName (struct : Struct) : Text :=
  struct.name ++ "Builder"

/-- The receiver of the builder's methods, which avoids all their parameters. -/
def builderReceiver (struct : Struct) : Param :=
  ⟨receiver struct.builderName struct.fieldNames, pointerTo struct.builderName⟩

/-- The function `NewTBuilder`, which gives an empty builder. -/
def newBuilder (struct : Struct) : Func :=
  { comment? := none
    receiver? := none
    name := "New" ++ struct.builderName
    params := []
    result? := some (pointerTo struct.builderName)
    body := [.giveBack (.fresh struct.builderName)] }

/-- The method that assigns one field and gives the builder back. -/
def builderStep (struct : Struct) (field : Field) : Func :=
  let object := struct.builderReceiver
  { comment? := none
    receiver? := some object
    name := capitalize field.name
    params := [field.toParam]
    result? := some (pointerTo struct.builderName)
    body := [.assign object.name field.name (.name field.name), .giveBack (.name object.name)] }

/-- The method `Build`, which gives the struct with the fields of the builder. -/
def build (struct : Struct) : Func :=
  let object := struct.builderReceiver
  { comment? := none
    receiver? := some object
    name := "Build"
    params := []
    result? := some (pointerTo struct.name)
    body := [.giveBack (.filled struct.name object.name struct.fieldNames)] }

/-- The builder type, its constructor, one step for each field, and `Build`. -/
def builder (struct : Struct) : Fragment :=
  [.struct struct.builderName struct.params, .func struct.newBuilder] ++
    struct.fields.map (fun field => .func (struct.builderStep field)) ++
    [.func struct.build]

end Struct

end GoScaffold
