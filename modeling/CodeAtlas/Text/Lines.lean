import CodeAtlas.Text.Blank

/-!
Splitting text at a character, and a text's lines. A line ends at a line feed, a carriage return
directly before that line feed belongs to the end of line, and no empty line follows the last
line feed.
-/
namespace CodeAtlas.Text

/-- The pieces between the characters that satisfy `p`; there is always at least one. -/
def splitAll (p : Char → Bool) (s : Line) : List Line := s.foldr step [[]]
where
  step (c : Char) (pieces : List Line) : List Line :=
    if p c then [] :: pieces else
      match pieces with
      | [] => [[c]]
      | piece :: rest => (c :: piece) :: rest

def splitOn (separator : Char) (s : Line) : List Line := splitAll (· == separator) s

def before (p : Char → Bool) (s : Line) : Line := s.takeWhile fun c => !p c

/-- The text after the last occurrence of `separator`, or all of it. -/
def afterLast (separator : Char) (s : Line) : Line :=
  (s.reverse.takeWhile (· != separator)).reverse

def stripPrefix? (start : Line) (s : Line) : Option Line :=
  match start, s with
  | [], rest => some rest
  | _ :: _, [] => none
  | p :: ps, c :: cs => if p = c then stripPrefix? ps cs else none

def stripSuffix? (stop : Line) (s : Line) : Option Line :=
  (stripPrefix? stop.reverse s.reverse).map List.reverse

def startsWith (start s : Line) : Bool := (stripPrefix? start s).isSome

def endsWith (stop s : Line) : Bool := (stripSuffix? stop s).isSome

def splitOnce? (mark : Line) : Line → Option (Line × Line)
  | [] => if mark.isEmpty then some ([], []) else none
  | c :: cs =>
    match stripPrefix? mark (c :: cs) with
    | some rest => some ([], rest)
    | none => (splitOnce? mark cs).map fun (left, right) => (c :: left, right)

def contains (mark s : Line) : Bool := (splitOnce? mark s).isSome

def chomp (s : Line) : Line := (stripSuffix? ['\r'] s).getD s

/-- Pieces between line feeds become lines: the last piece was not ended by a line feed. -/
def closeLines : List Line → List Line
  | [] => []
  | [last] => if last.isEmpty then [] else [last]
  | piece :: next :: rest => chomp piece :: closeLines (next :: rest)

def lines (s : Line) : List Line := closeLines (splitOn '\n' s)

def join (separator : Line) : List Line → Line
  | [] => []
  | [piece] => piece
  | piece :: next :: rest => piece ++ separator ++ join separator (next :: rest)

def joinLines (pieces : List Line) : Line := join ['\n'] pieces

def replace (old new : Char) (s : Line) : Line := s.map fun c => if c = old then new else c

end CodeAtlas.Text
