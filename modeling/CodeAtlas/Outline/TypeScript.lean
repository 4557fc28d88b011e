import CodeAtlas.Outline.Heritage

/-!
Declarations of a TypeScript or JavaScript file, line by line: functions, named arrow functions,
classes with their methods and arrow-valued fields, interfaces and type aliases.
-/
namespace CodeAtlas.Outline.TypeScript

def isNameStart (c : Char) : Bool := c.isAlpha || c == '_' || c == '$'

def bareName : Pattern := identifier isNameStart isDollarWord

def name : Pattern := .group "name" bareName

/-- The name of a class member, which a number sign may make private. -/
def memberName : Pattern := .group "name" (.seq (.optional (.char '#')) bareName)

def maybe (keyword : String) : Pattern := .optional (.seq (.word keyword) .blanks1)

/-- A keyword with blanks after it, or nothing, in a group named for it. -/
def flag (keyword : String) : Pattern :=
  .optional (.group keyword (.seq (.word keyword) .blanks1))

def typeArguments : Pattern :=
  .optional (.all [.char '<', .many (.noneOf ['(']), .char '>'])

def functionHeader : Pattern :=
  .all [.blanks, flag "export", flag "default", maybe "declare", flag "async", .word "function",
    .blanks, .optional (.char '*'), .blanks, name, .blanks, typeArguments, .blanks, parameterList,
    .restOfLine "rest"]

def classHeader : Pattern :=
  .all [.blanks, flag "export", flag "default", maybe "declare", flag "abstract", .word "class",
    .blanks1, name, .restOfLine "rest"]

def interfaceHeader : Pattern :=
  .all [.blanks, flag "export", maybe "declare", .word "interface", .blanks1, name,
    .restOfLine "rest"]

def typeHeader : Pattern :=
  .all [.blanks, flag "export", maybe "declare", .word "type", .blanks1, name, .blanks,
    .optional (.all [.char '<', .many (.noneOf ['=']), .char '>']), .blanks, .char '=',
    .restOfLine "rest"]

def arrowTail : Pattern :=
  .all [.blanks, .optional (.seq (.char ':') (.many1 (.noneOf ['=']))), .char '=', .blanks,
    flag "async",
    .alt (.all [.char '(', .group "params" (.many (.noneOf [')'])), .char ')'])
      (.group "single" bareName),
    .blanks,
    .optional (.all [.char ':', .blanks, .group "return" (.fewest1 (.noneOf ['=']))]),
    .blanks, .word "=>"]

def arrowHeader : Pattern :=
  .all [.blanks, flag "export", .oneOf ["const", "let", "var"], .blanks1, name, arrowTail]

def modifiers (words : List String) : Pattern :=
  .group "modifiers" (.many (.seq (.oneOf words) .blanks1))

def fieldHeader : Pattern :=
  .all [.blanks, modifiers ["public", "private", "protected", "static", "readonly", "override"],
    memberName, arrowTail]

def methodHeader : Pattern :=
  .all [.blanks,
    modifiers ["public", "private", "protected", "static", "async", "readonly", "abstract",
      "override", "get", "set"],
    .optional (.char '*'), memberName, .blanks, typeArguments, .blanks, parameterList,
    .restOfLine "rest"]

def returnPart : Pattern :=
  .all [.blanks, .char ':', .blanks,
    .group "return" (.fewest1 (.noneOf [Char.ofNat 0x7B, ';', '='])), .blanks,
    .any [openBrace, .char ';', .word "=>", .textEnd]]

def statementWords : List String :=
  ["if", "for", "while", "switch", "catch", "return", "function", "with", "super", "new"]

def returnType (rest : Line) : Option String :=
  (returnPart.match? rest).map fun groups => String.ofList (groups.get "return")

def arrowReturnType (groups : Pattern.Groups) : Option String :=
  (groups.get? "return").map fun t => String.ofList (Text.trim t)

def arrowParameters (groups : Pattern.Groups) : List String :=
  match groups.get? "params", groups.get? "single" with
  | some list, _ => splitParts list
  | none, some single => [String.ofList single]
  | none, none => []

def accessibility (words : List String) : Option String :=
  words.find? fun w => ["public", "private", "protected"].contains w

def modifierWords (groups : Pattern.Groups) : List String :=
  (Text.words (groups.get "modifiers")).map String.ofList

def headed (kind : ItemKind) (lines : List Line) (i : Nat) (groups : Pattern.Groups) : Construct :=
  construct kind (groups.get "name") lines i (braceBlockEnd lines i)

def arrowField (lines : List Line) (i : Nat) (className : String) (groups : Pattern.Groups) :
    Construct :=
  let words := modifierWords groups
  headed .method lines i groups
    |>.setFlag "isArrow" true
    |>.setFlag "isAsync" (groups.has "async")
    |>.setFlag "isStatic" (words.contains "static")
    |>.setOption "accessibility" (accessibility words)
    |>.setList "parameters" (arrowParameters groups)
    |>.setOption "returnType" (arrowReturnType groups)
    |>.set "className" (.string className)

def method (lines : List Line) (i : Nat) (className : String) (groups : Pattern.Groups) :
    Construct :=
  let words := modifierWords groups
  headed .method lines i groups
    |>.setFlag "isAsync" (words.contains "async")
    |>.setFlag "isStatic" (words.contains "static")
    |>.setOption "accessibility" (accessibility words)
    |>.setOption "accessor" (words.find? fun w => w == "get" || w == "set")
    |>.setList "parameters" (parametersOf groups)
    |>.setOption "returnType" (returnType (groups.get "rest"))
    |>.set "className" (.string className)

def methodGroups? (line trimmed : Line) : Option Pattern.Groups :=
  if trimmed.getLast? = some ';' ∨ assignsBeforeBracket trimmed then none
  else
    (methodHeader.match? line).filter fun groups =>
      !statementWords.contains (String.ofList (groups.get "name"))

def member? (lines : List Line) (i : Nat) (line : Line) (className : Line) : Option Construct :=
  let found? :=
    match fieldHeader.match? line with
    | some groups => some (arrowField lines i (String.ofList className) groups)
    | none =>
      (methodGroups? line (Text.trim line)).map (method lines i (String.ofList className))
  found?.map fun found => found.setOption "jsDoc" (commentAbove lines i true)

def exported (lines : List Line) (i : Nat) (groups : Pattern.Groups) (found : Construct) :
    Construct :=
  found.setFlag "isExported" (groups.has "export")
    |>.setFlag "isDefault" (groups.has "default")
    |>.setOption "jsDoc" (commentAbove lines i true)

def classConstruct (lines : List Line) (i : Nat) (types : List OpenType)
    (groups : Pattern.Groups) : Construct :=
  let rest := groups.get "rest"
  headed .class lines i groups
    |>.setFlag "isAbstract" (groups.has "abstract")
    |>.setOption "extends" ((extended? rest).map fun t => String.ofList (Text.trim t))
    |>.setList "implements" (implemented rest)
    |>.setOption "className" (types.head?.map fun t => String.ofList t.name)

def functionConstruct (lines : List Line) (i : Nat) (groups : Pattern.Groups) : Construct :=
  headed .function lines i groups
    |>.setFlag "isAsync" (groups.has "async")
    |>.setList "parameters" (parametersOf groups)
    |>.setOption "returnType" (returnType (groups.get "rest"))

def interfaceConstruct (lines : List Line) (i : Nat) (groups : Pattern.Groups) : Construct :=
  headed .interface lines i groups
    |>.setList "extends" (((extended? (groups.get "rest")).map splitParts).getD [])

def typeConstruct (lines : List Line) (i : Nat) (groups : Pattern.Groups) : Construct :=
  let definition := Text.dropEndWhile (· == ';') (Text.trim (groups.get "rest"))
  headed .type lines i groups |>.set "definition" (.string (String.ofList (Text.trim definition)))

def arrowConstruct (lines : List Line) (i : Nat) (groups : Pattern.Groups) : Construct :=
  headed .function lines i groups
    |>.setFlag "isArrow" true
    |>.setFlag "isAsync" (groups.has "async")
    |>.setList "parameters" (arrowParameters groups)
    |>.setOption "returnType" (arrowReturnType groups)

/-- Headers that declare something other than a class, tried in this order. -/
def otherHeaders : List (Pattern × (List Line → Nat → Pattern.Groups → Construct)) :=
  [(functionHeader, functionConstruct), (interfaceHeader, interfaceConstruct),
   (typeHeader, typeConstruct), (arrowHeader, arrowConstruct)]

def other? (lines : List Line) (i : Nat) (line : Line) : Option Construct :=
  otherHeaders.findSome? fun (header, make) =>
    (header.match? line).map fun groups => exported lines i groups (make lines i groups)

def isIgnored (trimmed : Line) : Bool :=
  trimmed.isEmpty || Text.startsWith ['/', '/'] trimmed || trimmed.head? == some '*'

def step (lines : List Line) (depths : List Int32) (types : List OpenType) (i : Nat) (line : Line) :
    Option Construct × List OpenType :=
  let types := stillOpen i types
  let depth := depths[i]?.getD 0
  if isIgnored (Text.trim line) then (none, types)
  else
    match types.head?.filter fun t => t.bodyDepth = depth with
    | some t => (member? lines i line t.name, types)
    | none =>
      match classHeader.match? line with
      | some groups =>
        (some (exported lines i groups (classConstruct lines i types groups)),
          ⟨groups.get "name", depth + 1, braceBlockEnd lines i⟩ :: types)
      | none => (other? lines i line, types)

def outline (source : Line) : List Construct :=
  let lines := Text.lines source
  scan (step lines (depthProfile lines)) [] 0 lines

end CodeAtlas.Outline.TypeScript
