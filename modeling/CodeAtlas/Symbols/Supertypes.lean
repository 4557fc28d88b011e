import CodeAtlas.Symbols.Basic

/-!
Names of supertypes in an item's metadata, without type arguments and qualifiers.
-/
namespace CodeAtlas.Symbols

def supertypeKeys : List String := ["bases", "extends", "implements", "extendsInterfaces", "embedded"]

def textsOf : Json → List String
  | .string s => [s]
  | .array elements => elements.filterMap fun
    | .string s => some s
    | _ => none
  | _ => []

def opensArguments (c : Char) : Bool := c == '<' || c == '[' || c == '('

def endsQualifier (c : Char) : Bool := c == '.' || c == ' ' || c == '*' || c == '='

def afterLastOf (p : Char → Bool) (s : Line) : Line := (s.reverse.takeWhile fun c => !p c).reverse

def bareName (entry : Line) : Line :=
  Text.trim (afterLastOf endsQualifier (Text.before opensArguments entry))

def supertypeNames (item : Item) : List String :=
  let entries := supertypeKeys.flatMap fun key => ((item.metadata.get? key).map textsOf).getD []
  (entries.map fun entry => String.ofList (bareName entry.toList)).filter fun name => name ≠ ""

end CodeAtlas.Symbols
