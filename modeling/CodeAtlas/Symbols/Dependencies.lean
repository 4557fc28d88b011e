import CodeAtlas.Symbols.Supertypes

/-!
Dependencies of an item: every name in its code that is the name of another item in a compatible
language. A name is used as a supertype, called, or only referred to; the strongest use counts.
-/
namespace CodeAtlas.Symbols

def isCall (t : Token) : Bool := (Text.trimStart t.rest).head? == some '('

def rank : DependencyKind → Nat
  | .reference => 0
  | .call => 1
  | .inheritance => 2

def useOf (supertypes : List String) (t : Token) : DependencyKind :=
  if supertypes.contains (String.ofList t.name) then .inheritance
  else if isCall t then .call
  else .reference

def stronger (a b : DependencyKind) : DependencyKind := if rank a < rank b then b else a

def kindOf (supertypes : List String) (found : List Token) (name : String) : DependencyKind :=
  (found.filter fun t => String.ofList t.name == name).foldl
    (fun kind t => stronger kind (useOf supertypes t)) .reference

def knownNames (symbols : List Symbol) (found : List Token) : List String :=
  distinctBy id ((found.map fun t => String.ofList t.name).filter fun name =>
    symbols.any fun s => s.name == name)

def dependencies (symbols : List Symbol) (item : Item) : List Dependency :=
  let found := tokens item.code.toList
  let supertypes := supertypeNames item
  (knownNames symbols found).flatMap fun name =>
    ((targets symbols name).filter fun target =>
        target.id != item.id && compatible item.language target.language).map fun target =>
      ⟨name, kindOf supertypes found name, some target.id⟩

/-- Finds dependencies among the items it was prepared with, or among all items at hand. -/
structure Analyzer where
  prepared : Option (List Symbol) := none
  deriving DecidableEq, Repr

namespace Analyzer

def prepare (items : List Item) : Analyzer := ⟨some (symbolsOf items)⟩

def dependencies (a : Analyzer) (item : Item) (all : List Item) : List Dependency :=
  Symbols.dependencies (a.prepared.getD (symbolsOf all)) item

end Analyzer
end CodeAtlas.Symbols
