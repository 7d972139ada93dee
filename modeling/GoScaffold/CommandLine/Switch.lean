import GoScaffold.Text.Basic

/-!
# Subcommands and switches

The program has five subcommands.  Switches are accepted before the name of the
subcommand and behind it; which ones depends on the place.
-/

namespace GoScaffold.CommandLine

/-! ### Subcommands -/

inductive Subcommand where
  | list
  | extract
  | generate
  | implement
  | handler
  deriving DecidableEq, Repr

def Subcommand.all : List Subcommand := [.list, .extract, .generate, .implement, .handler]

def Subcommand.name : Subcommand → Text
  | list => "list"
  | extract => "extract"
  | generate => "generate"
  | implement => "implement"
  | handler => "handler"

def Subcommand.ofName? (name : Text) : Option Subcommand :=
  all.find? fun subcommand => subcommand.name == name

def Subcommand.readsInput : Subcommand → Bool
  | handler => false
  | _ => true

/-! ### Switches -/

/-- An argument that starts with a hyphen. -/
inductive Switch where
  | help
  | version
  | verbose
  | output
  | label
  | verbatim
  | interface
  | type
  | verbs
  deriving DecidableEq, Repr

namespace Switch

/-- The spelling behind two hyphens. -/
def long : Switch → Text
  | help => "help"
  | version => "version"
  | verbose => "verbose"
  | output => "output"
  | label => "label"
  | verbatim => "verbatim"
  | interface => "interface"
  | type => "type"
  | verbs => "verbs"

/-- The spelling behind one hyphen. -/
def short? : Switch → Option Char
  | help => some 'h'
  | version => some 'V'
  | verbose => some 'v'
  | output => some 'o'
  | label => some 'l'
  | interface => some 'i'
  | type => some 't'
  | verbatim => none
  | verbs => none

def takesValue : Switch → Bool
  | help => false
  | version => false
  | verbose => false
  | verbatim => false
  | _ => true

def isRepeatable (switch : Switch) : Bool :=
  switch == label

/-- The value of a switch that is given without one, or not at all. -/
def default? : Switch → Option Text
  | verbs => some "GET"
  | _ => none

end Switch

/-! ### Levels -/

/-- A place among the arguments: before the name of the subcommand, or behind it. -/
inductive Level where
  | top
  | within (subcommand : Subcommand)
  deriving DecidableEq, Repr

namespace Level

/-- The switches that only a subcommand has. -/
def ownSwitches : Level → List Switch
  | within .generate => [.label, .verbatim]
  | within .implement => [.interface, .type]
  | within .handler => [.type, .verbs]
  | _ => []

def switches (level : Level) : List Switch :=
  [.help, .version, .verbose, .output] ++ level.ownSwitches

def required : Level → List Switch
  | within .generate => [.label]
  | within .implement => [.interface, .type]
  | within .handler => [.type]
  | _ => []

/-- How many arguments there are that are neither switches nor values. -/
def operandCount : Level → Nat
  | top => 0
  | within subcommand => if subcommand.readsInput then 1 else 0

end Level

end GoScaffold.CommandLine
