import CodeAtlas.Item.Basic

/-!
The stages of a run, in the order in which they build on one another.
-/
namespace CodeAtlas

inductive Stage where
  | parsing
  | dependencies
  | enrichment
  | vectorization
  | indexing
  deriving DecidableEq, Repr

namespace Stage

def name : Stage → String
  | parsing => "parsing"
  | dependencies => "dependencies"
  | enrichment => "enrichment"
  | vectorization => "vectorization"
  | indexing => "indexing"

def all : List Stage := [parsing, dependencies, enrichment, vectorization, indexing]

def ofName? (s : String) : Option Stage := all.find? fun stage => stage.name == s

end Stage
end CodeAtlas
