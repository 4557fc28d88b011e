import CodeAtlas.Outline.Scan

/-!
Declarations of a Python file, line by line: functions, methods and classes, with the decorators
above them and the documentation string that opens their body.
-/
namespace CodeAtlas.Outline.Python

def name : Pattern :=
  .group "name" (identifier (fun c => c.isAlpha || c == '_') Text.isWordChar)

def typeParameters : Pattern :=
  .optional (.all [.char '[', .many (.noneOf [']']), .char ']'])

def functionHeader : Pattern :=
  .all [.blanks, .optional (.group "async" (.seq (.word "async") .blanks1)), .word "def", .blanks1,
    name, .blanks, typeParameters, .blanks, parameterList, .restOfLine "rest"]

def classHeader : Pattern :=
  .all [.blanks, .word "class", .blanks1, name, .blanks, typeParameters, .blanks,
    .optional (.all [.char '(', .group "bases" (.many (.noneOf [')'])), .char ')'])]

def anyChar : Pattern := .noneOf ['\n']

def returnPart : Pattern :=
  .all [.word "->", .blanks, .group "return" (.fewest1 anyChar), .blanks, .char ':', .blanks,
    .optional (.seq (.char '#') (.many anyChar)), .textEnd]

/-- A leading underscore, unless two stand at both ends. -/
def isPrivate (name : Line) : Bool :=
  name.head? == some '_' &&
    !(Text.startsWith ['_', '_'] name && Text.endsWith ['_', '_'] name)

def tripleQuotes : List Line := [['"', '"', '"'], ['\'', '\'', '\'']]

def quotes : List Line := tripleQuotes ++ [['"'], ['\'']]

/-- The text of a string literal: lines trimmed, blank ends removed. -/
def cleanDocstring (raw : Line) : Option String :=
  let raw := raw.dropWhile fun c => ['r', 'R', 'u', 'U', 'b', 'B'].contains c
  let inner := quotes.findSome? fun quote =>
    (Text.stripPrefix? quote raw).map fun s => (Text.stripSuffix? quote s).getD s
  inner.bind fun inner =>
    nonempty? (Text.trim (Text.joinLines ((Text.lines inner).map Text.trim)))

def closingLine? (quote opening : Line) (later : List Line) : Option Nat :=
  let afterQuote := ((Text.splitOnce? quote opening).map Prod.snd).getD []
  (afterQuote :: later).findIdx? (Text.contains quote)

/-- The documentation string on the first line that is not blank after a header, within its block. -/
def docstringAfter (lines : List Line) (headerEnd blockEnd : Nat) : Option String :=
  match (span lines (headerEnd + 1) blockEnd).dropWhile Text.allBlank with
  | [] => none
  | first :: later =>
    let opening := Text.trimStart first
    let bare := opening.dropWhile fun c => ['r', 'R', 'u', 'U'].contains c
    match tripleQuotes.find? fun quote => Text.startsWith quote bare with
    | none =>
      if opening.head? = some '"' ∨ opening.head? = some '\'' then
        cleanDocstring (Text.trimEnd opening)
      else none
    | some quote =>
      match closingLine? quote opening later with
      | none => none
      | some n => cleanDocstring (Text.trim (Text.joinLines ((first :: later).take (n + 1))))

structure Scope where
  isClass : Bool
  indent : Nat
  name : Line
  deriving DecidableEq, Repr

/-- Scopes that a line with this indentation lies in, the innermost first. -/
def enclosing (indent : Nat) (scopes : List Scope) : List Scope :=
  scopes.dropWhile fun s => indent ≤ s.indent

def headerEnd (lines : List Line) (i blockEnd : Nat) : Nat :=
  let endsHeader (l : Line) : Bool :=
    (Text.trimEnd (Text.before (· == '#') l)).getLast? == some ':'
  match (span lines i blockEnd).findIdx? endsHeader with
  | some n => i + n
  | none => i

def joinWords (lines : List Line) : Line := Text.join [' '] lines

def functionConstruct (lines : List Line) (i first blockEnd : Nat) (className : Option Line)
    (groups : Pattern.Groups) : Construct :=
  let header := joinWords (span lines i (headerEnd lines i blockEnd))
  construct (if className.isSome then .method else .function) (groups.get "name") lines first
      blockEnd
    |>.setFlag "isAsync" (groups.has "async")
    |>.setList "parameters" (parametersOf groups)
    |>.setOption "returnType"
      ((returnPart.search? header).map fun found => String.ofList (found.get "return"))

def classConstruct (lines : List Line) (first blockEnd : Nat) (groups : Pattern.Groups) : Construct :=
  construct .class (groups.get "name") lines first blockEnd
    |>.setList "bases" (splitParts (groups.get "bases"))

def declaration (lines : List Line) (i : Nat) (scopes : List Scope) (isClass : Bool)
    (groups : Pattern.Groups) : Construct :=
  let first := runAbove lines i fun l => l.head? == some '@'
  let decorators := ((lines.take i).drop first).map fun l => String.ofList (Text.trim l)
  let blockEnd := indentBlockEnd lines i
  let className := (scopes.head?.filter Scope.isClass).map Scope.name
  let found :=
    if isClass then classConstruct lines first blockEnd groups
    else functionConstruct lines i first blockEnd className groups
  found.setFlag "isPrivate" (isPrivate (groups.get "name"))
    |>.setList "decorators" decorators
    |>.setOption "docstring" (docstringAfter lines (headerEnd lines i blockEnd) blockEnd)
    |>.setOption "className" (className.map String.ofList)

def header? (line : Line) : Option (Bool × Pattern.Groups) :=
  match functionHeader.match? line with
  | some groups => some (false, groups)
  | none => (classHeader.match? line).map fun groups => (true, groups)

def step (lines : List Line) (scopes : List Scope) (i : Nat) (line : Line) :
    Option Construct × List Scope :=
  if Text.allBlank line || (Text.trimStart line).head? == some '#' then (none, scopes)
  else
    let indent := indentOf line
    let scopes := enclosing indent scopes
    match header? line with
    | none => (none, scopes)
    | some (isClass, groups) =>
      (some (declaration lines i scopes isClass groups),
        ⟨isClass, indent, groups.get "name"⟩ :: scopes)

def outline (source : Line) : List Construct :=
  let lines := Text.lines source
  scan (step lines) [] 0 lines

end CodeAtlas.Outline.Python
