import GoScaffold.Parameter

/-!
# Go code

The part of Go that scaffolding is made of.  A fragment is a list of top-level
declarations; what they declare can be read off before they are printed.
-/

namespace GoScaffold.Code

inductive Expr where
  | name (name : Text)
  /-- selects a field: `object.field` -/
  | field (object field : Text)
  /-- a new zero value: `new(T)` -/
  | allocate (type : Text)
  /-- an empty composite value: `&T{}` -/
  | fresh (type : Text)
  /-- a composite value with one line `field: object.field,` for each field -/
  | filled (type object : Text) (fields : List Text)
  deriving DecidableEq, Repr

inductive Stmt where
  /-- declares a variable: `name := value` -/
  | define (name : Text) (value : Expr)
  /-- assigns a field: `object.field = value` -/
  | assign (object field : Text) (value : Expr)
  /-- returns a value: `return value` -/
  | giveBack (value : Expr)
  /-- a line comment: `// text` -/
  | remark (text : Text)
  /-- stops the program: `panic("message")` -/
  | abort (message : Text)
  /-- a `switch` over `subject` that answers each case, and all others, with a status -/
  | dispatch (subject : Expr) (writer : Text) (cases : List (Text × Text)) (otherwise : Text)
  deriving DecidableEq, Repr

/-- A function, or a method when it has a receiver. -/
structure Func where
  comment? : Option Text
  receiver? : Option Param
  name : Text
  params : List Param
  result? : Option Text
  body : List Stmt
  deriving DecidableEq, Repr

inductive Decl where
  | struct (name : Text) (fields : List Param)
  | func (function : Func)
  deriving DecidableEq, Repr

def Decl.func? : Decl → Option Func
  | struct .. => none
  | func function => some function

def pointerTo (type : Text) : Text :=
  '*' :: type

end GoScaffold.Code

namespace GoScaffold

/-- Generated code: some declarations, in order. -/
abbrev Fragment := List Code.Decl

/-- The functions and methods that a fragment declares. -/
def Fragment.funcs (fragment : Fragment) : List Code.Func :=
  fragment.filterMap Code.Decl.func?

end GoScaffold
