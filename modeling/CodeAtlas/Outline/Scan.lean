import CodeAtlas.Item.Construct
import CodeAtlas.Outline.Comment
import CodeAtlas.Pattern

/-!
Scanning a file line by line: every line declares at most one thing, and may change what later
lines are read against.
-/
namespace CodeAtlas.Outline

def scan {σ : Type} (step : σ → Nat → Line → Option Construct × σ) (state : σ) (i : Nat) :
    List Line → List Construct
  | [] => []
  | line :: rest =>
    match step state i line with
    | (none, next) => scan step next (i + 1) rest
    | (some found, next) => found :: scan step next (i + 1) rest

/-- A declaration that takes lines `first` to `last`, counted from zero. -/
def construct (kind : ItemKind) (name : Line) (lines : List Line) (first last : Nat) : Construct :=
  { kind := kind
    name := String.ofList name
    startLine := first + 1
    endLine := last + 1
    code := String.ofList (spanCode lines first last) }

def text? (groups : Pattern.Groups) (name : String) : Option String :=
  (groups.get? name).map String.ofList

structure OpenType where
  name : Line
  bodyDepth : Int32
  last : Nat
  deriving DecidableEq, Repr

def stillOpen (i : Nat) (types : List OpenType) : List OpenType :=
  types.dropWhile fun t => t.last < i

/-- A name of letters, digits and marks whose first character satisfies `first`. -/
def identifier (first rest : Char → Bool) : Pattern :=
  .seq (.single first) (.many (.single rest))

def isDollarWord (c : Char) : Bool := Text.isWordChar c || c == '$'

/-- A parameter list from its opening bracket to the first closing one, or the end of the line. -/
def parameterList : Pattern :=
  .all [.char '(', .group "params" (.many (.noneOf [')'])), .optional (.char ')')]

def parametersOf (groups : Pattern.Groups) : List String := splitParts (groups.get "params")

end CodeAtlas.Outline
