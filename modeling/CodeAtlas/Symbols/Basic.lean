import CodeAtlas.Item.Basic
import CodeAtlas.Text.Lines

/-!
Symbols: the names in source text, and the items a name may stand for.
-/
namespace CodeAtlas.Symbols

/-- The elements whose key no earlier element has. -/
def distinctBy {α β : Type} [DecidableEq β] (key : α → β) : List α → List α
  | [] => []
  | a :: rest => a :: (distinctBy key rest).filter fun b => key b ≠ key a

def startsName (c : Char) : Bool := c.isAlpha || c == '_' || c == '$'

def continuesName (c : Char) : Bool := startsName c || c.isDigit

structure Token where
  name : Line
  rest : Line
  deriving DecidableEq, Repr

/-- The names in a text, each as long as it can be, from left to right. -/
def tokens : Line → List Token
  | [] => []
  | c :: cs =>
    if startsName c then
      ⟨c :: cs.takeWhile continuesName, cs.dropWhile continuesName⟩ ::
        tokens (cs.dropWhile continuesName)
    else tokens cs
termination_by s => s.length
decreasing_by
  · have := (List.dropWhile_sublist continuesName (l := cs)).length_le
    simp only [List.length_cons]
    omega
  · simp

structure Symbol where
  name : String
  id : String
  language : Language
  deriving DecidableEq, Repr

def Symbol.ofItem (item : Item) : Symbol := ⟨item.name, item.id, item.language⟩

def symbolsOf (items : List Item) : List Symbol := items.map Symbol.ofItem

def targets (symbols : List Symbol) (name : String) : List Symbol :=
  distinctBy Symbol.id (symbols.filter fun s => s.name == name)

def compatible (a b : Language) : Bool := a == b || (a.isScript && b.isScript)

end CodeAtlas.Symbols
