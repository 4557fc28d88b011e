import CodeAtlas.Language
import CodeAtlas.Text.Quoted

/-!
Sets of rules by which files are read. A family of languages has one set, and a table that is kept
apart from the one that tells languages tells for each extension which set reads its files.
-/
namespace CodeAtlas

/-- The languages that have rules of their own, and for each extension the place of one of them.
Extensions are listed last first. -/
structure RuleBook where
  languages : List Language := []
  places : List (String × Nat) := []
  deriving DecidableEq, Repr

namespace RuleBook

/-- Adds an extension. A language that has rules keeps them; for any other, those of its family are
added. -/
def register (book : RuleBook) (entry : String × Language) : RuleBook :=
  match book.languages.findIdx? (· == entry.2) with
  | some place => { book with places := (entry.1, place) :: book.places }
  | none =>
    { languages := book.languages ++ [entry.2.family]
      places := (entry.1, book.languages.length) :: book.places }

def ofEntries (entries : List (String × Language)) : RuleBook := entries.foldl register {}

def language? (book : RuleBook) (extension : String) : Option Language :=
  (book.places.find? fun entry => entry.1 == extension).bind fun entry =>
    book.languages[entry.2]?

def entries : List (String × Language) :=
  [("go", .go), ("java", .java), ("py", .python), ("pyi", .python),
   ("ts", .typeScript), ("tsx", .typeScript), ("mts", .typeScript), ("cts", .typeScript),
   ("js", .typeScript), ("jsx", .typeScript), ("mjs", .typeScript), ("cjs", .typeScript)]

def standard : RuleBook := ofEntries entries

end RuleBook

def rulesFor? (path : Path) : Option Language :=
  RuleBook.standard.language? ((Language.extensionOf? path).getD "")

def isSupported (path : Path) : Bool := (rulesFor? path).isSome

def unsupportedMessage (path : Path) : String :=
  "unsupported file extension " ++ Text.quoted ((Language.extensionOf? path).getD "") ++ " for " ++
    path.toString

end CodeAtlas
