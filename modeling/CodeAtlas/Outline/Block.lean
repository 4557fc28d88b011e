import CodeAtlas.Text.Lines

/-!
Blocks of a source file read line by line. Braces and brackets are counted as they stand, inside
string literals and comments too, in 32 bits that wrap around. A brace block ends where its braces
balance; a declaration without a body ends at a semicolon, or where its header neither goes on nor is
followed by a line that opens the body.
-/
namespace CodeAtlas.Outline

def braceShift (c : Char) : Int32 :=
  if c = Char.ofNat 0x7B then 1 else if c = Char.ofNat 0x7D then -1 else 0

def braceNet (line : Line) : Int32 := line.foldr (fun c net => braceShift c + net) 0

def opensBrace (line : Line) : Bool := line.contains (Char.ofNat 0x7B)

def continuationMarks : List Char := ['(', ',', '=', '|', '&', '<', ':']

def continues (line : Line) : Bool :=
  let trimmed := Text.trimEnd line
  (trimmed.getLast?.any fun c => continuationMarks.contains c) || Text.endsWith ['=', '>'] trimmed

def endsStatement (line : Line) : Bool := (Text.trimEnd line).getLast? == some ';'

def firstNonBlank? (lines : List Line) : Option Line := lines.find? fun l => !Text.allBlank l

def nextOpens (rest : List Line) : Bool :=
  (firstNonBlank? rest).any fun l => (Text.trimStart l).head? == some (Char.ofNat 0x7B)

/-- How many lines after its first one a block takes, given the braces open so far. -/
def blockTail (depth : Int32) (opened : Bool) : List Line → Nat
  | [] => 0
  | [_] => 0
  | line :: next :: rest =>
    let depth := depth + braceNet line
    let opened := opened || opensBrace line
    if opened then
      if depth ≤ 0 then 0 else 1 + blockTail depth opened (next :: rest)
    else if endsStatement line then 0
    else if !continues line && !nextOpens (next :: rest) then 0
    else 1 + blockTail depth opened (next :: rest)

/-- Index of the last line of the block whose header stands at `start`. -/
def braceBlockEnd (lines : List Line) (start : Nat) : Nat :=
  start + blockTail 0 false (lines.drop start)

def depthsFrom (depth : Int32) : List Line → List Int32
  | [] => []
  | line :: rest => depth :: depthsFrom (depth + braceNet line) rest

def depthProfile (lines : List Line) : List Int32 := depthsFrom 0 lines

/-- Width of the blank start of a line, a tab counting four columns. -/
def indentOf (line : Line) : Nat :=
  (line.takeWhile Text.isBlank).foldr (fun c width => (if c = '\t' then 4 else 1) + width) 0

/-- How many of the lines belong to a block whose header is indented by `header`: up to the last
line before the first one indented no deeper, blank lines at the end left out. -/
def indentTail (header : Nat) : List Line → Nat
  | [] => 0
  | line :: rest =>
    if Text.allBlank line then
      match indentTail header rest with
      | 0 => 0
      | n + 1 => n + 2
    else if indentOf line ≤ header then 0
    else 1 + indentTail header rest

def indentBlockEnd (lines : List Line) (start : Nat) : Nat :=
  start + indentTail (indentOf (lines[start]?.getD [])) (lines.drop (start + 1))

/-- Index of the first of the lines directly above `start` that all satisfy `p` when trimmed. -/
def runAbove (lines : List Line) (start : Nat) (p : Line → Bool) : Nat :=
  start - ((lines.take start).reverse.takeWhile fun l => p (Text.trim l)).length

def span (lines : List Line) (first last : Nat) : List Line :=
  (lines.take (last + 1)).drop first

def spanCode (lines : List Line) (first last : Nat) : Line := Text.joinLines (span lines first last)

def bracketShift (c : Char) : Int32 :=
  if c = '(' || c = '[' || c = Char.ofNat 0x7B || c = '<' then 1
  else if c = ')' || c = ']' || c = Char.ofNat 0x7D || c = '>' then -1
  else 0

/-- Pieces between the commas at depth zero, given the depth before the text. -/
def topLevelPieces (depth : Int32) : Line → List Line
  | [] => [[]]
  | c :: rest =>
    if c = ',' ∧ depth = 0 then [] :: topLevelPieces depth rest
    else
      match topLevelPieces (depth + bracketShift c) rest with
      | [] => [[c]]
      | piece :: pieces => (c :: piece) :: pieces

def splitTopLevel (list : Line) : List Line :=
  ((topLevelPieces 0 list).map Text.trim).filter fun piece => !piece.isEmpty

def splitParts (list : Line) : List String := (splitTopLevel list).map String.ofList

end CodeAtlas.Outline
