import GoScaffold.CommandLine.Switch
import GoScaffold.Scaffold.Struct

/-!
# Reading the arguments

The arguments are read from left to right, first those before the name of the subcommand
and then those behind it.  Asking for help or for the version ends the reading at
once; all other faults are found when everything is read, and are usage errors.
-/

namespace GoScaffold.CommandLine

/-- Why there is nothing to run. -/
inductive Stop where
  | usage
  | help
  | version (level : Level)
  deriving DecidableEq, Repr

structure Given where
  /-- one entry each time a switch occurs -/
  occurrences : List Switch
  /-- the values in order, each with its switch -/
  values : List (Switch × Text)
  operands : List Text
  deriving DecidableEq, Repr

namespace Given

def nothing : Given := ⟨[], [], []⟩

def occur (given : Given) (switch : Switch) : Given :=
  { given with occurrences := given.occurrences ++ [switch] }

def addValue (given : Given) (switch : Switch) (value : Text) : Given :=
  { given with values := given.values ++ [(switch, value)] }

def addOperands (given : Given) (operands : List Text) : Given :=
  { given with operands := given.operands ++ operands }

def has (given : Given) (switch : Switch) : Bool :=
  given.occurrences.contains switch

def valuesOf (given : Given) (switch : Switch) : List Text :=
  given.values.filterMap fun (other, value) => if other = switch then some value else none

/-- The first value of a switch, or its default. -/
def valueOf? (given : Given) (switch : Switch) : Option Text :=
  (given.valuesOf switch).head?.or switch.default?

end Given

/-! ### One argument with switches -/

/-- Notes a switch whose value, if it takes one, is `value?`; the second component is the
switch that still waits for its value.  A flag ignores a value. -/
def readSwitch (level : Level) (given : Given) (switch : Switch) (value? : Option Text) :
    Except Stop (Given × Option Switch) :=
  match switch with
  | .help => .error .help
  | .version => .error (.version level)
  | switch =>
    if switch.takesValue then
      match value? with
      | some value => .ok ((given.occur switch).addValue switch value, none)
      | none => .ok (given.occur switch, some switch)
    else .ok (given.occur switch, none)

/-- Reads `--name` or `--name=value`; all equals signs before the value are dropped. -/
def readLong (level : Level) (given : Given) (spelling : Text) : Except Stop (Given × Option Switch) :=
  let name := spelling.takeWhile fun c => c != '='
  let behind := spelling.dropWhile fun c => c != '='
  let value? := if behind.isEmpty then none else some (behind.dropWhile fun c => c == '=')
  match level.switches.find? fun switch => switch.long == name with
  | some switch => readSwitch level given switch value?
  | none => .error .usage

/-- Reads a cluster such as `vtW`: flags, and at last a switch with its value.  Equals
signs before the value are dropped. -/
def readCluster (level : Level) (given : Given) : Text → Except Stop (Given × Option Switch)
  | [] => .ok (given, none)
  | c :: rest =>
    match level.switches.find? fun switch => switch.short? == some c with
    | none => .error .usage
    | some switch =>
      if switch.takesValue then
        readSwitch level given switch
          (if rest.isEmpty then none else some (rest.dropWhile fun c => c == '='))
      else
        match readSwitch level given switch none with
        | .ok (given, _) => readCluster level given rest
        | .error stop => .error stop

/-- Does an argument hold switches?  A single hyphen does not. -/
def isSwitches : Text → Bool
  | '-' :: _ :: _ => true
  | _ => false

def readSwitches (level : Level) (given : Given) (argument : Text) : Except Stop (Given × Option Switch) :=
  let spelling := argument.dropWhile fun c => c == '-'
  if List.isPrefixOf ['-', '-'] argument then readLong level given spelling
  else readCluster level given spelling

/-! ### One level -/

/-- How the arguments `help …` end: one subcommand may be named, or help itself. -/
def stopOfHelp : List Text → Stop
  | [] => .help
  | [name] => if (Subcommand.ofName? name).isSome || name == ("help" : Text) then .help else .usage
  | _ => .usage

/-- What was read at a level, and the subcommand that follows with its arguments. -/
structure Reading where
  given : Given
  next? : Option (Subcommand × List Text)
  deriving DecidableEq, Repr

/-- Reads the arguments of a level.  A switch that waits for a value takes the next
argument unless that holds switches; `--` makes operands of all that follow. -/
def readLevel (level : Level) (given : Given) (waiting? : Option Switch) :
    List Text → Except Stop Reading
  | [] => .ok ⟨given, none⟩
  | argument :: rest =>
    if argument = ['-', '-'] then .ok ⟨given.addOperands rest, none⟩
    else if isSwitches argument then
      match readSwitches level given argument with
      | .ok (given, waiting?) => readLevel level given waiting? rest
      | .error stop => .error stop
    else
      match waiting? with
      | some switch => readLevel level (given.addValue switch argument) none rest
      | none =>
        if level = .top then
          if argument = ("help" : Text) then .error (stopOfHelp rest)
          else
            match Subcommand.ofName? argument with
            | some subcommand => .ok ⟨given, some (subcommand, rest)⟩
            | none => .error .usage
        else if level.operandCount ≤ given.operands.length then .error .usage
        else readLevel level (given.addOperands [argument]) none rest

/-- Is everything that was given in order?  Each switch that takes a value has one,
none but the repeatable ones occurs twice, and nothing is missing or left over. -/
def Given.isComplete (given : Given) (level : Level) : Bool :=
  given.operands.length == level.operandCount &&
  level.required.all given.has &&
  level.switches.all fun switch =>
    (switch.isRepeatable || decide (given.occurrences.count switch ≤ 1)) &&
    (!given.has switch || !switch.takesValue || (given.valueOf? switch).isSome)

/-! ### The whole command line -/

inductive Command where
  | list (input : Text)
  | extract (input : Text)
  | generate (input : Text) (labels : List Text) (naming : Naming)
  | implement (input interface target : Text)
  | handler (target verbs : Text)
  deriving DecidableEq, Repr

/-- A command, and the file that takes its result in place of the standard output. -/
structure Invocation where
  command : Command
  output? : Option Text
  deriving DecidableEq, Repr

/-- The command of a subcommand whose arguments are complete. -/
def Command.ofGiven (subcommand : Subcommand) (given : Given) : Command :=
  let input := given.operands.head?.getD []
  let value := fun switch => (given.valueOf? switch).getD []
  match subcommand with
  | .list => .list input
  | .extract => .extract input
  | .generate =>
    .generate input (given.valuesOf .label) (if given.has .verbatim then .verbatim else .exported)
  | .implement => .implement input (value .interface) (value .type)
  | .handler => .handler (value .type) (value .verbs)

/-- Reads a command line.  An output file named behind the subcommand wins over one named
before it. -/
def Invocation.ofArguments (arguments : List Text) : Except Stop Invocation := do
  let ⟨outer, next?⟩ ← readLevel .top .nothing none arguments
  match next? with
  | none => .error .usage
  | some (subcommand, rest) =>
    let ⟨inner, _⟩ ← readLevel (.within subcommand) .nothing none rest
    if inner.isComplete (.within subcommand) && outer.isComplete .top then
      return ⟨Command.ofGiven subcommand inner, (inner.valueOf? .output).or (outer.valueOf? .output)⟩
    else .error .usage

end GoScaffold.CommandLine
