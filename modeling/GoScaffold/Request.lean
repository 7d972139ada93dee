import GoScaffold.Code.Printer
import GoScaffold.Label
import GoScaffold.Scaffold.Struct
import GoScaffold.Scaffold.Target

/-!
# Requests

A request names what is to be generated.  The answer depends on the catalog only
through the one declaration that the request names.
-/

namespace GoScaffold

/-- What to generate, with every name chosen. -/
inductive Request where
  | getter (struct field : Text) (naming : Naming)
  | setter (struct field : Text)
  | constructor (struct : Text)
  | builder (struct : Text)
  | stubs (interface target : Text)
  | handler (target : Text) (verbs : List Verb)
  deriving DecidableEq, Repr

inductive GenerateError where
  | unknownStruct (name : Text)
  | unknownField (struct field : Text)
  | unknownInterface (name : Text)
  /-- a label that only names a type -/
  | bareName (name : Text)
  | unknownVerb (text : Text)
  deriving DecidableEq, Repr

def GenerateError.message : GenerateError → Text
  | unknownStruct name => "No struct named \x60" ++ name ++ "\x60"
  | unknownField struct field => "Struct \x60" ++ struct ++ "\x60 has no private field \x60" ++ field ++ "\x60"
  | unknownInterface name => "No interface named \x60" ++ name ++ "\x60"
  | bareName name =>
    "\x60" ++ name ++ "\x60 only names a type; an interface needs a target type and a handler needs verbs"
  | unknownVerb text => "Unsupported HTTP method: " ++ text

/-- The verbs of a comma separated list; blank items are left out. -/
def Verb.ofList (list : Text) : Except GenerateError (List Verb) :=
  ((Text.splitOn (· == ',') list).filter fun item => !(Text.trim item).isEmpty).mapM fun item =>
    match Verb.ofText? item with
    | some verb => .ok verb
    | none => .error (.unknownVerb item)

/-- The request that a label stands for.  A bare name leaves open what to generate. -/
def Request.ofLabel (label : Label) (naming : Naming) : Except GenerateError Request :=
  match label with
  | .getter type field _ => .ok (.getter type field naming)
  | .setter type field _ => .ok (.setter type field)
  | .constructor type => .ok (.constructor type)
  | .builder type => .ok (.builder type)
  | .bare name => .error (.bareName name)

namespace Catalog

def findStruct (catalog : Catalog) (name : Text) : Except GenerateError Struct :=
  match catalog.struct? name with
  | some struct => .ok struct
  | none => .error (.unknownStruct name)

def findField (catalog : Catalog) (struct field : Text) : Except GenerateError (Struct × Field) := do
  let struct ← catalog.findStruct struct
  match struct.field? field with
  | some field => .ok (struct, field)
  | none => .error (.unknownField struct.name field)

def findInterface (catalog : Catalog) (name : Text) : Except GenerateError Interface :=
  match catalog.interface? name with
  | some interface => .ok interface
  | none => .error (.unknownInterface name)

/-- The code that a request asks for. -/
def generate (catalog : Catalog) : Request → Except GenerateError Fragment
  | .getter struct field naming => do
    let (struct, field) ← catalog.findField struct field
    return [.func (GoScaffold.getter struct.name field naming)]
  | .setter struct field => do
    let (struct, field) ← catalog.findField struct field
    return [.func (GoScaffold.setter struct.name field)]
  | .constructor struct => do
    let struct ← catalog.findStruct struct
    return [.func struct.constructor]
  | .builder struct => do
    let struct ← catalog.findStruct struct
    return struct.builder
  | .stubs interface target => do
    let interface ← catalog.findInterface interface
    return interface.stubs target
  | .handler target verbs => .ok [.func (GoScaffold.handler target verbs)]

end Catalog

end GoScaffold
