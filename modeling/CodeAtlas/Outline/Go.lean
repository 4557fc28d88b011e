import CodeAtlas.Outline.Scan
import CodeAtlas.Text.Uppercase

/-!
Declarations of a Go file, line by line: functions, methods and types.
-/
namespace CodeAtlas.Outline.Go

def name : Pattern :=
  .group "name" (identifier (fun c => c.isAlpha || c == '_') Text.isWordChar)

def brackets : Pattern := .all [.char '[', .many (.noneOf [']']), .char ']']

def functionHeader : Pattern :=
  .all [.word "func", .blanks,
    .optional (.all [.char '(', .group "receiver" (.many (.noneOf [')'])), .char ')', .blanks]),
    name, .blanks, .optional brackets, .blanks, parameterList, .restOfLine "rest"]

def typeHeader : Pattern :=
  .all [.word "type", .blanks1, name, .optional brackets, .blanks,
    .optional (.group "alias" (.char '=')), .blanks,
    .optional (.seq (.group "kind" (.oneOf ["struct", "interface"])) .wordEdge),
    .restOfLine "rest"]

def isExported (name : Line) : Bool := name.head?.any Text.isUppercase

/-- The bare name of a receiver's type, without pointer, package and type arguments. -/
def baseTypeName (type : Line) : Line :=
  Text.trim (Text.afterLast '.' (Text.before (· == '[') (type.dropWhile (· == '*'))))

def function (lines : List Line) (i : Nat) (groups : Pattern.Groups) : Construct :=
  let name := groups.get "name"
  let receiver := (groups.get? "receiver").map Text.trim
  let returnType := Text.trim (Text.before (· == Char.ofNat 0x7B) (groups.get "rest"))
  let receiverType := (receiver.bind fun r => (Text.words r).getLast?).map baseTypeName
  construct (if receiver.isSome then .method else .function) name lines i (braceBlockEnd lines i)
    |>.setFlag "isExported" (isExported name)
    |>.setOption "receiver" (receiver.map fun r => String.ofList ('(' :: r ++ [')']))
    |>.setOption "receiverType" (receiverType.map String.ofList)
    |>.setList "parameters" (parametersOf groups)
    |>.setOption "returnType" (nonempty? returnType)
    |>.setOption "docComment" (commentAbove lines i false)

def typeKind (groups : Pattern.Groups) : ItemKind :=
  if groups.has "alias" then .type
  else if groups.get? "kind" = some "struct".toList then .struct
  else if groups.get? "kind" = some "interface".toList then .interface
  else .type

def type (lines : List Line) (i : Nat) (groups : Pattern.Groups) : Construct :=
  let name := groups.get "name"
  let kind := typeKind groups
  let found := construct kind name lines i (braceBlockEnd lines i)
    |>.setFlag "isExported" (isExported name)
    |>.setOption "docComment" (commentAbove lines i false)
  if kind = .type then
    found.set "underlyingType" (.string (String.ofList (Text.trim (groups.get "rest"))))
      |>.setFlag "isAlias" (groups.has "alias")
  else found

def declaration? (lines : List Line) (i : Nat) (line : Line) : Option Construct :=
  match functionHeader.match? line with
  | some groups => some (function lines i groups)
  | none => (typeHeader.match? (Text.trimStart line)).map (type lines i)

def outline (source : Line) : List Construct :=
  let lines := Text.lines source
  scan (fun _ i line => (declaration? lines i line, ())) () 0 lines

end CodeAtlas.Outline.Go
