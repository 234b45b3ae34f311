/-! The arguments of the program: a command, its options and its paths. Options may stand
before and behind paths; a double dash ends them. -/
namespace Pgml.CommandLine

inductive Command where
  | show
  | names
  | check
  deriving DecidableEq, Repr

structure Options where
  config : Option String
  owners : Option String
  debug : Bool
  version : Bool
  help : Bool
  deriving DecidableEq, Repr

def Options.none : Options := ⟨.none, .none, false, false, false⟩

/-- What is wrong with arguments. -/
inductive UsageFault where
  | unknownOption (name : String)
  | missingValue (option : String)
  | needlessValue (option : String)
  | extraPaths (paths : List String)
  | missingPath
  | unknownCommand (name : String)
  | missingCommand
  deriving DecidableEq, Repr

/-- What the arguments ask for. -/
inductive Request where
  /-- Help on the program; nobody asked for it if there were no arguments at all. -/
  | help (asked : Bool)
  | commandHelp (c : Command)
  | version
  | run (c : Command) (o : Options) (paths : List String)
  deriving DecidableEq, Repr

namespace Command

def all : List Command := [.check, .names, .show]

def name : Command → String
  | .show => "show"
  | .names => "names"
  | .check => "check"

def ofName? (name : String) : Option Command := all.find? fun c => c.name == name

/-- Whether the command takes any number of paths, and not just one. -/
def takesMany : Command → Bool
  | .check => true
  | _ => false

end Command

def isOption (arg : String) : Bool :=
  match arg.toList with
  | '-' :: _ :: _ => true
  | _ => false

/-- The name of an option and the value behind an equals sign. -/
def splitOption (arg : String) : String × Option String :=
  match arg.toList.span (· != '=') with
  | (name, _ :: value) => (String.ofList name, some (String.ofList value))
  | _ => (arg, none)

/-- The name by which an unknown option is reported: of options with a single dash, only the
first letter counts. -/
def reportedName (arg : String) : String :=
  match arg.toList with
  | '-' :: '-' :: _ => (splitOption arg).1
  | dash :: letter :: _ => String.ofList [dash, letter]
  | _ => arg

namespace Options

/-- The options with a switch turned on. -/
def switch? (o : Options) : String → Option Options
  | "--debug" => some { o with debug := true }
  | "--version" => some { o with version := true }
  | "--help" => some { o with help := true }
  | _ => Option.none

/-- The options with a value set. -/
def set? (o : Options) (value : String) : String → Option Options
  | "--config" => some { o with config := some value }
  | "--owners" => some { o with owners := some value }
  | _ => Option.none

end Options

/-- The options and paths among the arguments of a command. -/
def scan (o : Options) : List String → Except UsageFault (Options × List String)
  | [] => .ok (o, [])
  | arg :: rest =>
    if arg == "--" then .ok (o, rest)
    else if isOption arg then
      let (name, value) := splitOption arg
      match o.switch? name with
      | some next => if value.isSome then .error (.needlessValue name) else scan next rest
      | none =>
        match value with
        | some value =>
          match o.set? value name with
          | some next => scan next rest
          | none => .error (.unknownOption (reportedName arg))
        | none =>
          if (o.set? "" name).isNone then .error (.unknownOption (reportedName arg))
          else match rest with
            | [] => .error (.missingValue name)
            | value :: more => scan ((o.set? value name).getD o) more
    else (scan o rest).map fun found => (found.1, arg :: found.2)

/-- What the arguments of a command ask for. -/
def requestOf (c : Command) (args : List String) : Except UsageFault Request := do
  let (o, paths) ← scan .none args
  if o.help then return .commandHelp c
  else
    let extra := if c.takesMany then [] else paths.drop 1
    if !extra.isEmpty then throw (.extraPaths extra)
    else if o.version then return .version
    else return .run c o paths

/-- Whether help is asked for before any command, and the arguments from the command on. -/
def scanBefore (help : Bool) : List String → Except UsageFault (Bool × List String)
  | [] => .ok (help, [])
  | arg :: rest =>
    if arg == "--" then .ok (help, rest)
    else if isOption arg then
      let (name, value) := splitOption arg
      if name == "--help" then
        if value.isSome then .error (.needlessValue name) else scanBefore true rest
      else .error (.unknownOption (reportedName arg))
    else .ok (help, arg :: rest)

/-- A fault in the arguments, and the command that they are for once that is known. -/
structure Misused where
  command : Option Command
  fault : UsageFault
  deriving DecidableEq, Repr

def parse (args : List String) : Except Misused Request :=
  if args.isEmpty then .ok (.help false)
  else match scanBefore false args with
    | .error fault => .error ⟨none, fault⟩
    | .ok (true, _) => .ok (.help true)
    | .ok (false, []) => .error ⟨none, .missingCommand⟩
    | .ok (false, name :: rest) =>
      match Command.ofName? name with
      | none => .error ⟨none, .unknownCommand name⟩
      | some c =>
        match requestOf c rest with
        | .ok request => .ok request
        | .error fault => .error ⟨some c, fault⟩

end Pgml.CommandLine
