import GoScaffold.Catalog.Basic
import GoScaffold.Code.Basic

/-!
# Methods of a target

A target is a type that is not in the catalog.  It gets a stub for each method of an
interface that it is to implement, or the handler that answers some of the methods of HTTP,
called verbs here because Go has methods of its own.
-/

namespace GoScaffold

open Code Unicode

/-! ### Implementations of interfaces -/

namespace Method

def resultNames (method : Method) : List Text :=
  Param.resultNames method.result

/-- The parameters of the method, each with a name; a name that is made up avoids
the results. -/
def namedParams (method : Method) : List Param :=
  Param.ofList method.params method.resultNames

/-- The receiver of a stub on `target`.  Parameters and results share its scope. -/
def stubReceiver (method : Method) (target : Text) : Text :=
  receiver target (method.namedParams.map Param.name ++ method.resultNames)

/-- A method of `target` that has the signature of `method` and is still to be
written. -/
def stub (interface : Text) (method : Method) (target : Text) : Func :=
  { comment? := some (method.name ++ " implements " ++ interface ++ ['.'])
    receiver? := some ⟨method.stubReceiver target, pointerTo target⟩
    name := method.name
    params := method.namedParams
    result? := if method.result.isEmpty then none else some method.result
    body := [.remark "TODO: implement", .abort "not implemented"] }

end Method

/-- One stub for each method of an interface, in order. -/
def Interface.stubs (interface : Interface) (target : Text) : Fragment :=
  interface.methods.map fun method => .func (method.stub interface.name target)

/-! ### Request handlers -/

inductive Verb where
  | get
  | post
  | put
  | patch
  | delete
  | head
  | options
  | connect
  | trace
  deriving DecidableEq, Repr

namespace Verb

def all : List Verb := [get, post, put, patch, delete, head, options, connect, trace]

def name : Verb → Text
  | get => "GET"
  | post => "POST"
  | put => "PUT"
  | patch => "PATCH"
  | delete => "DELETE"
  | head => "HEAD"
  | options => "OPTIONS"
  | connect => "CONNECT"
  | trace => "TRACE"

/-- The constant of the package `http`. -/
def constant : Verb → Text
  | get => "http.MethodGet"
  | post => "http.MethodPost"
  | put => "http.MethodPut"
  | patch => "http.MethodPatch"
  | delete => "http.MethodDelete"
  | head => "http.MethodHead"
  | options => "http.MethodOptions"
  | connect => "http.MethodConnect"
  | trace => "http.MethodTrace"

/-- The status of a successful answer. -/
def successStatus : Verb → Text
  | post => "http.StatusCreated"
  | delete => "http.StatusNoContent"
  | _ => "http.StatusOK"

/-- The verb of that name, in any mix of cases and between any blanks. -/
def ofText? (text : Text) : Option Verb :=
  let name := (Text.trim text).flatMap uppercase
  all.find? fun verb => verb.name == name

end Verb

/-- The receiver of a handler, which avoids the parameters `w` and `r`. -/
def handlerReceiver (target : Text) : Text :=
  receiver target ["w", "r"]

/-- The method `ServeHTTP` of `target`: each verb is answered with its status, in the
order of first occurrence, and any other request is refused. -/
def handler (target : Text) (verbs : List Verb) : Func :=
  { comment? := none
    receiver? := some ⟨handlerReceiver target, pointerTo target⟩
    name := "ServeHTTP"
    params := [⟨"w", "http.ResponseWriter"⟩, ⟨"r", "*http.Request"⟩]
    result? := none
    body := [.dispatch (.field "r" "Method") "w"
      (verbs.eraseDups.map fun verb => (verb.constant, verb.successStatus))
      "http.StatusMethodNotAllowed"] }

end GoScaffold
