import CodeAtlas.Outline.Heritage

/-!
Declarations of a Java file, line by line: types, methods and constructors, with the annotations
above them.
-/
namespace CodeAtlas.Outline.Java

def modifiers (words : List String) : Pattern :=
  .group "modifiers" (.many (.seq (.oneOf words) .blanks1))

def name : Pattern :=
  .group "name" (identifier (fun c => c.isAlpha || c == '_' || c == '$') isDollarWord)

def typeHeader : Pattern :=
  .all [.blanks,
    modifiers ["public", "protected", "private", "static", "abstract", "final", "sealed",
      "non-sealed", "strictfp"],
    .group "keyword" (.oneOf ["class", "interface", "enum", "record", "@interface"]),
    .blanks1, name, .restOfLine "rest"]

def returnType : Pattern :=
  .group "return" (.all [
    .many1 (.single fun c => isDollarWord c || ['.', '[', ']', '?'].contains c),
    .optional (.all [.char '<', .many (.noneOf ['(', ')']), .char '>']),
    .many (.word "[]")])

def methodHeader : Pattern :=
  .all [.blanks,
    modifiers ["public", "protected", "private", "static", "abstract", "final", "synchronized",
      "native", "default", "strictfp"],
    .optional (.all [.char '<', .many (.noneOf ['>']), .char '>', .blanks]),
    returnType, .blanks1, name, .blanks, parameterList, .restOfLine "rest"]

def constructorHeader : Pattern :=
  .all [.blanks, modifiers ["public", "protected", "private"],
    .group "name" (identifier Char.isUpper isDollarWord), .blanks, parameterList,
    .restOfLine "rest"]

def statementWords : List String :=
  ["if", "for", "while", "switch", "catch", "synchronized", "return", "new", "else", "throw",
   "case", "do", "try", "assert"]

def isAnnotation (line : Line) : Bool :=
  line.head? == some '@' && !Text.startsWith "@interface".toList line

def visibility (has : String → Bool) : String :=
  if has "public" then "public"
  else if has "protected" then "protected"
  else if has "private" then "private"
  else "package"

def headed (kind : ItemKind) (lines : List Line) (i : Nat) (groups : Pattern.Groups) : Construct :=
  let first := runAbove lines i isAnnotation
  let annotations := ((lines.take i).drop first).map fun l => String.ofList (Text.trim l)
  let words := (Text.words (groups.get "modifiers")).map String.ofList
  let has (word : String) := words.contains word
  construct kind (groups.get "name") lines first (braceBlockEnd lines i)
    |>.set "visibility" (.string (visibility has))
    |>.setFlag "isStatic" (has "static")
    |>.setFlag "isAbstract" (has "abstract")
    |>.setFlag "isFinal" (has "final")
    |>.setList "annotations" annotations
    |>.setOption "javadoc" (commentAbove lines first true)

def typeKind (keyword : Line) : ItemKind :=
  if keyword = "interface".toList then .interface
  else if keyword = "enum".toList then .enum
  else if keyword = "@interface".toList then .annotationType
  else .class

def type (lines : List Line) (i : Nat) (enclosing : List OpenType) (groups : Pattern.Groups) :
    Construct :=
  let kind := typeKind (groups.get "keyword")
  let rest := groups.get "rest"
  let extended := (extended? rest).map Text.trim
  let found := headed kind lines i groups
    |>.setOption "className" (enclosing.head?.map fun t => String.ofList t.name)
    |>.setOption "extends" (if kind = .interface then none else extended.map String.ofList)
    |>.setList "implements" (implemented rest)
    |>.setList "extendsInterfaces"
      (if kind = .interface then (extended.map splitParts).getD [] else [])
  if groups.get "keyword" = "record".toList then found.setFlag "isRecord" true else found

def thrown (rest : Line) : List String :=
  match Text.splitOnce? "throws".toList rest with
  | some (_, types) => splitParts (Text.before (fun c => c == Char.ofNat 0x7B || c == ';') types)
  | none => []

def mayDeclare (trimmed : Line) : Bool :=
  !(trimmed.contains '=' && !trimmed.contains '(') && !assignsBeforeBracket trimmed

def methodGroups? (line : Line) : Option Pattern.Groups :=
  (methodHeader.match? line).filter fun groups =>
    !statementWords.contains (String.ofList (groups.get "return")) &&
      !statementWords.contains (String.ofList (groups.get "name"))

/-- A constructor is named like its type; any other member is a method. -/
def memberGroups? (enclosing : OpenType) (line : Line) : Option (ItemKind × Pattern.Groups) :=
  match (constructorHeader.match? line).filter fun groups => groups.get "name" = enclosing.name with
  | some groups => some (.constructor, groups)
  | none => (methodGroups? line).map fun groups => (.method, groups)

def member (lines : List Line) (i : Nat) (enclosing : OpenType) (kind : ItemKind)
    (groups : Pattern.Groups) : Construct :=
  headed kind lines i groups
    |>.set "className" (.string (String.ofList enclosing.name))
    |>.setList "parameters" (parametersOf groups)
    |>.setOption "returnType" (text? groups "return")
    |>.setList "throws" (thrown (groups.get "rest"))

def step (lines : List Line) (depths : List Int32) (types : List OpenType) (i : Nat) (line : Line) :
    Option Construct × List OpenType :=
  let types := stillOpen i types
  let trimmed := Text.trim line
  let depth := depths[i]?.getD 0
  if trimmed.isEmpty || isAnnotation trimmed then (none, types)
  else
    match typeHeader.match? line with
    | some groups =>
      (some (type lines i types groups),
        ⟨groups.get "name", depth + 1, braceBlockEnd lines i⟩ :: types)
    | none =>
      match types with
      | [] => (none, types)
      | enclosing :: _ =>
        if depth = enclosing.bodyDepth ∧ mayDeclare trimmed then
          ((memberGroups? enclosing line).map fun (kind, groups) =>
            member lines i enclosing kind groups, types)
        else (none, types)

def outline (source : Line) : List Construct :=
  let lines := Text.lines source
  scan (step lines (depthProfile lines)) [] 0 lines

end CodeAtlas.Outline.Java
