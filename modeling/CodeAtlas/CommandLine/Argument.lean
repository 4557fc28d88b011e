import CodeAtlas.Text.Natural

/-!
Arguments of a command: options with their values, and words. An option is written `--name` with a
value behind it or after an equals sign, or as one letter with the value attached or behind it.
After `--` all arguments are words.
-/
namespace CodeAtlas.CommandLine

inductive UsageFault where
  | unexpected (argument : String)
  | missingValue (option : String)
  | unexpectedValue (option value : String)
  | badValue (option value : String)
  | repeated (option : String)
  | missing (what : String)
  deriving DecidableEq, Repr

def UsageFault.message : UsageFault → String
  | unexpected argument => "unexpected argument '" ++ argument ++ "' found"
  | missingValue option => "a value is required for '--" ++ option ++ "'"
  | unexpectedValue option value => "unexpected value '" ++ value ++ "' for '--" ++ option ++ "'"
  | badValue option value => "invalid value '" ++ value ++ "' for '--" ++ option ++ "'"
  | repeated option => "the argument '--" ++ option ++ "' cannot be used multiple times"
  | missing what => "missing " ++ what

inductive Stop where
  | fault (fault : UsageFault)
  | help
  | version
  deriving DecidableEq, Repr

inductive ValueKind where
  | path
  | count
  deriving DecidableEq, Repr

def count? (s : String) : Option Nat := Text.natural? Text.wordBound s.toList

namespace ValueKind

def accepts : ValueKind → String → Bool
  | path, s => !s.isEmpty
  | count, s => (count? s).isSome

end ValueKind

inductive OptionUse where
  | value (kind : ValueKind)
  | switch
  | help
  | version
  deriving DecidableEq, Repr

structure OptionRule where
  long : String
  short : Option Char := none
  use : OptionUse
  repeats : Bool := false
  deriving DecidableEq, Repr

inductive Argument where
  | option (long value : String)
  | word (text : String)
  deriving DecidableEq, Repr

inductive Spelling where
  | long (name : String) (attached : Option String)
  | short (letter : Char) (attached : Option String)
  | terminator
  | word
  deriving DecidableEq, Repr

def Spelling.ofLong (s : List Char) : Spelling :=
  match s.dropWhile (· != '=') with
  | [] => .long (String.ofList s) none
  | _ :: value => .long (String.ofList (s.takeWhile (· != '='))) (some (String.ofList value))

/-- A single hyphen is a word. -/
def Spelling.ofArgument (argument : String) : Spelling :=
  match argument.toList with
  | ['-', '-'] => .terminator
  | '-' :: '-' :: rest => .ofLong rest
  | ['-', letter] => .short letter none
  | '-' :: letter :: '=' :: value => .short letter (some (String.ofList value))
  | '-' :: letter :: value => .short letter (some (String.ofList value))
  | _ => .word

def OptionRule.isNamed (rule : OptionRule) : Spelling → Bool
  | .long name _ => rule.long == name
  | .short letter _ => rule.short == some letter
  | _ => false

def Spelling.attached? : Spelling → Option String
  | .long _ attached | .short _ attached => attached
  | _ => none

/-- What must not stand behind an option without a value. -/
def Spelling.excess? : Spelling → Option String
  | .long _ attached => attached
  | _ => none

def Argument.isOption (long : String) : Argument → Bool
  | .option name _ => name == long
  | .word _ => false

abbrev Rest (arguments : List String) := { left : List String // left.length ≤ arguments.length }

def readValue (option : String) (attached : Option String) (rest : List String) :
    Except Stop (String × Rest rest) :=
  match attached, rest with
  | some value, rest => .ok (value, ⟨rest, Nat.le_refl _⟩)
  | none, [] => .error (.fault (.missingValue option))
  | none, value :: left =>
    match Spelling.ofArgument value with
    | .word => .ok (value, ⟨left, Nat.le_succ _⟩)
    | _ => .error (.fault (.missingValue option))

def readUse (rule : OptionRule) (spelling : Spelling) (rest : List String) :
    Except Stop (String × Rest rest) :=
  match rule.use, spelling.excess? with
  | .value kind, _ =>
    match readValue rule.long spelling.attached? rest with
    | .error stop => .error stop
    | .ok (value, left) =>
      if kind.accepts value then .ok (value, left)
      else .error (.fault (.badValue rule.long value))
  | _, some value => .error (.fault (.unexpectedValue rule.long value))
  | .help, none => .error .help
  | .version, none => .error .version
  | .switch, none => .ok ("", ⟨rest, Nat.le_refl _⟩)

def readOption (rules : List OptionRule) (seen : List Argument) (argument : String)
    (rest : List String) : Except Stop (Argument × Rest rest) :=
  let spelling := Spelling.ofArgument argument
  match rules.find? fun rule => rule.isNamed spelling with
  | none => .error (.fault (.unexpected argument))
  | some rule =>
    match readUse rule spelling rest with
    | .error stop => .error stop
    | .ok (value, left) =>
      if !rule.repeats && seen.any (Argument.isOption rule.long) then
        .error (.fault (.repeated rule.long))
      else .ok (.option rule.long value, left)

def readCommand (rules : List OptionRule) (seen : List Argument) :
    List String → Except Stop (List Argument × String × List String)
  | [] => .error (.fault (.missing "command"))
  | argument :: rest =>
    match Spelling.ofArgument argument with
    | .word => .ok (seen, argument, rest)
    | _ =>
      match readOption rules seen argument rest with
      | .error stop => .error stop
      | .ok (option, left) => readCommand rules (seen ++ [option]) left.val
  termination_by arguments => arguments.length
  decreasing_by have := left.property; simp; omega

abbrev WordRule := Nat → String → Bool

def Argument.isWord : Argument → Bool
  | .word _ => true
  | .option _ _ => false

def readWord (accepts : WordRule) (seen : List Argument) (word : String) :
    Except Stop (List Argument) :=
  if accepts (seen.filter Argument.isWord).length word then .ok (seen ++ [.word word])
  else .error (.fault (.unexpected word))

def readWords (accepts : WordRule) (seen : List Argument) :
    List String → Except Stop (List Argument)
  | [] => .ok seen
  | word :: rest =>
    match readWord accepts seen word with
    | .error stop => .error stop
    | .ok seen => readWords accepts seen rest

def readArguments (rules : List OptionRule) (accepts : WordRule) (seen : List Argument) :
    List String → Except Stop (List Argument)
  | [] => .ok seen
  | argument :: rest =>
    match Spelling.ofArgument argument with
    | .terminator => readWords accepts seen rest
    | .word =>
      match readWord accepts seen argument with
      | .error stop => .error stop
      | .ok seen => readArguments rules accepts seen rest
    | _ =>
      match readOption rules seen argument rest with
      | .error stop => .error stop
      | .ok (option, left) => readArguments rules accepts (seen ++ [option]) left.val
  termination_by arguments => arguments.length
  decreasing_by
  · simp
  · have := left.property; simp; omega

def words (arguments : List Argument) : List String :=
  arguments.filterMap fun
    | .word text => some text
    | .option _ _ => none

def values (long : String) (arguments : List Argument) : List String :=
  arguments.filterMap fun
    | .option name value => if name = long then some value else none
    | .word _ => none

end CodeAtlas.CommandLine
