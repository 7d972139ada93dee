import GoScaffold.Code.Basic

/-!
# Printed code

Each declaration starts with a line break and ends without one, so a fragment can
be inserted at the end of a line.
-/

namespace GoScaffold.Code

/-- The line that fills one field of a new value from the field of `object`. -/
def fieldLine (indent object field : Text) : Text :=
  indent ++ "\t" ++ field ++ ": " ++ object ++ ['.'] ++ field ++ ",\n"

/-- An expression inside a statement that is indented by `indent`. -/
def Expr.text (indent : Text) : Expr → Text
  | name called => called
  | field object selected => object ++ ['.'] ++ selected
  | allocate type => "new(" ++ type ++ [')']
  | fresh type => ['&'] ++ type ++ "\x7b\x7d"
  | filled type object fields =>
    ['&'] ++ type ++ "\x7b\n" ++ fields.flatMap (fieldLine indent object) ++ indent ++ "\x7d"

/-- The line that answers a request with a status. -/
def statusLine (indent writer status : Text) : Text :=
  indent ++ "\t" ++ writer ++ ".WriteHeader(" ++ status ++ ")\n"

def caseLines (indent writer : Text) (answer : Text × Text) : Text :=
  indent ++ "case " ++ answer.1 ++ ":\n" ++ statusLine indent writer answer.2

/-- A statement indented by `indent`, with its line break. -/
def Stmt.text (indent : Text) : Stmt → Text
  | define name value => indent ++ name ++ " := " ++ value.text indent ++ "\n"
  | assign object field value => indent ++ object ++ ['.'] ++ field ++ " = " ++ value.text indent ++ "\n"
  | giveBack value => indent ++ "return " ++ value.text indent ++ "\n"
  | remark text => indent ++ "// " ++ text ++ "\n"
  | abort message => indent ++ "panic(\"" ++ message ++ "\")\n"
  | dispatch subject writer cases otherwise =>
    indent ++ "switch " ++ subject.text indent ++ " \x7b\n" ++
      cases.flatMap (caseLines indent writer) ++
      indent ++ "default:\n" ++ statusLine indent writer otherwise ++
      indent ++ "\x7d\n"

def paramsText (params : List Param) : Text :=
  ['('] ++ Text.join ", " (params.map Param.declaration) ++ [')']

/-- The first line of a function, through its `{`. -/
def Func.head (func : Func) : Text :=
  "func " ++
    (match func.receiver? with
    | some receiver => ['('] ++ receiver.declaration ++ ") "
    | none => []) ++
    func.name ++ paramsText func.params ++
    (match func.result? with
    | some result => [' '] ++ result
    | none => []) ++
    " \x7b"

/-- A function, from the line break before it to its last brace. -/
def Func.text (func : Func) : Text :=
  "\n" ++
    (match func.comment? with
    | some comment => "// " ++ comment ++ "\n"
    | none => []) ++
    func.head ++ "\n" ++ func.body.flatMap (Stmt.text "\t") ++ "\x7d"

def memberLine (field : Param) : Text :=
  "\t" ++ field.declaration ++ "\n"

/-- A struct type, from the line break before it to its last brace. -/
def structText (name : Text) (fields : List Param) : Text :=
  "\ntype " ++ name ++ " struct \x7b\n" ++
    fields.flatMap memberLine ++ "\x7d"

/-- A declaration, from the line break before it to its last brace. -/
def Decl.text : Decl → Text
  | struct type fields => structText type fields
  | func function => function.text

end GoScaffold.Code

namespace GoScaffold

/-- The declarations of a fragment, each on lines of its own. -/
def Fragment.text (fragment : Fragment) : Text :=
  Text.join ['\n'] (fragment.map Code.Decl.text)

end GoScaffold
