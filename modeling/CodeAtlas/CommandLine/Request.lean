import CodeAtlas.CommandLine.Argument
import CodeAtlas.Config.Load

/-!
What a user asks for: one command, and the configuration it is to run with.
-/
namespace CodeAtlas.CommandLine

inductive Command where
  | index (root : Option Path) (files excluded : List Path)
  | search (query : String) (count : Nat)
  | parse (files : List Path) (usesTrees : Bool)
  deriving DecidableEq, Repr

structure Request where
  config : Option Path
  command : Command
  deriving DecidableEq, Repr

def helpOption : OptionRule := { long := "help", short := some 'h', use := .help }

/-- Options that may stand before the name of the command as well as after it. -/
def sharedOptions : List OptionRule := [{ long := "config", use := .value .path }, helpOption]

def programOptions : List OptionRule :=
  { long := "version", short := some 'V', use := .version } :: sharedOptions

/-- The last of the configurations given to the program and to the command. -/
def configOf (before after : List Argument) : Option Path :=
  ((values "config" before ++ values "config" after).getLast?).map Path.ofString

def defaultCount : Nat := 10

structure CommandRule where
  name : String
  options : List OptionRule
  accepts : WordRule
  build : List Argument → Except UsageFault Command

def pathsOf (texts : List String) : List Path := texts.map Path.ofString

def indexRule : CommandRule where
  name := "index"
  options :=
    [{ long := "root", use := .value .path },
     { long := "file", use := .value .path, repeats := true },
     { long := "exclude", use := .value .path, repeats := true }]
  accepts _ _ := false
  build arguments :=
    .ok (.index ((values "root" arguments).head?.map Path.ofString)
      (pathsOf (values "file" arguments)) (pathsOf (values "exclude" arguments)))

def searchRule : CommandRule where
  name := "search"
  options := [{ long := "top-k", short := some 'k', use := .value .count }]
  accepts before _ := before == 0
  build arguments :=
    match words arguments with
    | query :: _ =>
      .ok (.search query (((values "top-k" arguments).head?.bind count?).getD defaultCount))
    | [] => .error (.missing "query")

def parseRule : CommandRule where
  name := "parse"
  options := [{ long := "no-ast", use := .switch }]
  accepts _ word := !word.isEmpty
  build arguments :=
    match words arguments with
    | [] => .error (.missing "files")
    | files => .ok (.parse (pathsOf files) (values "no-ast" arguments).isEmpty)

def commandRules : List CommandRule := [indexRule, searchRule, parseRule]

def commandNamed? (name : String) : Option CommandRule :=
  commandRules.find? fun rule => rule.name == name

/-- Help is given on at most one command. -/
def readHelp : List String → Stop
  | [] => .help
  | [name] =>
    if name = "help" ∨ (commandNamed? name).isSome then .help else .fault (.unexpected name)
  | _ :: name :: _ => .fault (.unexpected name)

def readRequest (before : List Argument) (rule : CommandRule) (rest : List String) :
    Except Stop Request :=
  match readArguments (rule.options ++ sharedOptions) rule.accepts [] rest with
  | .error stop => .error stop
  | .ok arguments =>
    match rule.build arguments with
    | .error fault => .error (.fault fault)
    | .ok command => .ok ⟨configOf before arguments, command⟩

def Request.ofArguments (arguments : List String) : Except Stop Request :=
  match readCommand programOptions [] arguments with
  | .error stop => .error stop
  | .ok (before, name, rest) =>
    if name = "help" then .error (readHelp rest)
    else
      match commandNamed? name with
      | none => .error (.fault (.unexpected name))
      | some rule => readRequest before rule rest

def Request.configPath (r : Request) (env : Environment) : Path :=
  (r.config.or ((env.get? "STRATA_CONFIG").map Path.ofString)).getD (.ofString "strata.toml")

end CodeAtlas.CommandLine
