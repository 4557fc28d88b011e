import CodeAtlas.Text.Lines
import CodeAtlas.Text.WordChar

/-!
Text patterns with named groups. Matching is ordered: of two alternatives the first that lets the
whole pattern match is taken, a greedy repetition prefers one more round, a lazy one prefers to stop.
-/
namespace CodeAtlas

inductive Pattern where
  | empty
  | single (accepts : Char → Bool)
  | seq (first second : Pattern)
  | alt (first second : Pattern)
  | star (greedy : Bool) (body : Pattern)
  | group (name : String) (body : Pattern)
  | wordEdge
  | textEnd

namespace Pattern

/-- A place in the text: what precedes it, what follows it, and the groups found on the way. -/
structure Place where
  before : Option Char
  rest : Line
  found : List (String × Line)

def Place.atStart (text : Line) : Place := ⟨none, text, []⟩

def Place.onWordEdge (place : Place) : Bool :=
  let behind := place.before.any Text.isWordChar
  let ahead := place.rest.head?.any Text.isWordChar
  behind != ahead

/-- Rounds of a repetition, at most one for each character that is left. -/
def rounds (body : (Place → Option Place) → Place → Option Place) (greedy : Bool) :
    Nat → (Place → Option Place) → Place → Option Place
  | 0, next, place => next place
  | n + 1, next, place =>
    if greedy then
      match body (rounds body greedy n next) place with
      | some stop => some stop
      | none => next place
    else
      match next place with
      | some stop => some stop
      | none => body (rounds body greedy n next) place

/-- Matches at one place and goes on with `next`; the first way on that succeeds is taken. -/
def run : Pattern → (Place → Option Place) → Place → Option Place
  | empty, next, place => next place
  | single accepts, next, place =>
    match place.rest with
    | [] => none
    | c :: rest => if accepts c then next ⟨some c, rest, place.found⟩ else none
  | seq first second, next, place => first.run (second.run next) place
  | alt first second, next, place =>
    match first.run next place with
    | some stop => some stop
    | none => second.run next place
  | star greedy body, next, place => rounds body.run greedy place.rest.length next place
  | group name body, next, place =>
    body.run (fun stop =>
      let taken := place.rest.take (place.rest.length - stop.rest.length)
      next { stop with found := (name, taken) :: stop.found }) place
  | wordEdge, next, place => if place.onWordEdge then next place else none
  | textEnd, next, place => if place.rest.isEmpty then next place else none

abbrev Groups := List (String × Line)

def Groups.get? (groups : Groups) (name : String) : Option Line :=
  (groups.find? fun entry => entry.1 == name).map Prod.snd

def Groups.get (groups : Groups) (name : String) : Line := (groups.get? name).getD []

def Groups.has (groups : Groups) (name : String) : Bool := (groups.get? name).isSome

def match? (pattern : Pattern) (text : Line) : Option Groups :=
  (pattern.run some (Place.atStart text)).map Place.found

def searchFrom (pattern : Pattern) (before : Option Char) : Line → Option Groups
  | [] => (pattern.run some ⟨before, [], []⟩).map Place.found
  | c :: rest =>
    match pattern.run some ⟨before, c :: rest, []⟩ with
    | some stop => some stop.found
    | none => searchFrom pattern (some c) rest

def search? (pattern : Pattern) (text : Line) : Option Groups := searchFrom pattern none text

def all : List Pattern → Pattern
  | [] => empty
  | [p] => p
  | p :: ps => seq p (all ps)

def any : List Pattern → Pattern
  | [] => single fun _ => false
  | [p] => p
  | p :: ps => alt p (any ps)

def char (c : Char) : Pattern := single (· == c)

def word (text : String) : Pattern := all (text.toList.map char)

def oneOf (words : List String) : Pattern := any (words.map word)

def many (p : Pattern) : Pattern := star true p

def fewest (p : Pattern) : Pattern := star false p

def many1 (p : Pattern) : Pattern := seq p (many p)

/-- At least one round, and no more than needed. -/
def fewest1 (p : Pattern) : Pattern := seq p (fewest p)

def optional (p : Pattern) : Pattern := alt p empty

def blanks : Pattern := many (single Text.isBlank)

def blanks1 : Pattern := many1 (single Text.isBlank)

def noneOf (excluded : List Char) : Pattern := single fun c => !excluded.contains c

def restOfLine (name : String) : Pattern := seq (group name (many (noneOf ['\n']))) textEnd

end Pattern
end CodeAtlas
