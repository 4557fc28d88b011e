import CodeAtlas.Outline.Scan

/-!
The `extends` and `implements` parts of a type's header.
-/
namespace CodeAtlas.Outline

def openBrace : Pattern := .char (Char.ofNat 0x7B)

/-- A list of type names, as short as what follows allows. -/
def typeList : Pattern :=
  .group "types" (.fewest1 (.single fun c => isDollarWord c || ['.', '<', '>', ',', ' '].contains c))

def extendsPart : Pattern :=
  .all [.wordEdge, .word "extends", .blanks1, typeList, .blanks,
    .any [.all [.wordEdge, .word "implements", .wordEdge], openBrace, .textEnd]]

def implementsPart : Pattern :=
  .all [.wordEdge, .word "implements", .blanks1, typeList, .blanks, .any [openBrace, .textEnd]]

def extended? (header : Line) : Option Line :=
  (extendsPart.search? header).map fun groups => groups.get "types"

def implemented (header : Line) : List String :=
  match implementsPart.search? header with
  | some groups => splitParts (groups.get "types")
  | none => []

def assignsBeforeBracket (line : Line) : Bool :=
  line.contains '(' && (line.takeWhile (· != '(')).contains '='

end CodeAtlas.Outline
