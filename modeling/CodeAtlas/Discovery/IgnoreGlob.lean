import CodeAtlas.Discovery.Glob
import CodeAtlas.Pattern

/-!
Patterns of ignore files. They are matched octet by octet against a path below the directory of the
file; two stars stand for directories only between slashes or at the ends, and alternatives are
written in braces.
-/
namespace CodeAtlas

inductive IgnoreToken where
  | char (c : Char)
  | anyOctet
  | anyRun
  | leadingDirectories
  | innerDirectories
  | everythingBelow
  | oneOf (negated : Bool) (ranges : List CharRange)
  | alternatives (branches : List (List IgnoreToken))
  deriving Repr

namespace IgnoreGlob

/-- What has been read of a pattern: the branches that are open, the innermost one first and each with
its last token first, and how many branches lie outside each open brace. -/
structure Draft where
  branches : List (List IgnoreToken) := [[]]
  braces : List Nat := []
  /-- A bracket that was never closed stands for itself, and so do those after it. -/
  plainBrackets : Bool := false

namespace Draft

def push (d : Draft) (token : IgnoreToken) : Draft :=
  match d.branches with
  | [] => { d with branches := [[token]] }
  | branch :: outer => { d with branches := (token :: branch) :: outer }

def pushRuns (d : Draft) : Draft := (d.push .anyRun).push .anyRun

def atBranchStart (d : Draft) : Bool := (d.branches.head?.getD []).isEmpty

def isNested (d : Draft) : Bool := 1 < d.branches.length

/-- Puts a recursive wildcard in place of the slash before it, unless one stands there already. -/
def pushDirectories (d : Draft) (token : IgnoreToken) : Draft :=
  match d.branches with
  | (.leadingDirectories :: _) :: _ => d
  | (.everythingBelow :: _) :: _ => d
  | (_ :: branch) :: outer => { d with branches := (token :: branch) :: outer }
  | _ => d.push token

def openBrace (d : Draft) : Draft :=
  { d with branches := [] :: d.branches, braces := d.branches.length :: d.braces }

def comma (d : Draft) : Draft :=
  if d.braces.isEmpty then d.push (.char ',') else { d with branches := [] :: d.branches }

def closeBrace? (d : Draft) : Option Draft :=
  match d.braces with
  | [] => none
  | outside :: braces =>
    let inner := d.branches.take (d.branches.length - outside)
    some ({ d with branches := d.branches.drop inner.length, braces := braces }.push
      (.alternatives (inner.reverse.map List.reverse)))

end Draft

/-- Extends the last range of a class; ranges are listed last first. -/
def extendRange? (c : Char) : List CharRange → Option (List CharRange)
  | [] => none
  | r :: rest => if r.first ≤ c then some (⟨r.first, c⟩ :: rest) else none

inductive ClassRead where
  | closed (ranges : List CharRange) (rest : Line)
  | unclosed
  | reversed

def readRanges (start pending : Bool) (ranges : List CharRange) : Line → ClassRead
  | [] => .unclosed
  | c :: rest =>
    if c = ']' ∧ start = false then
      .closed (if pending then ranges.reverse ++ [⟨'-', '-'⟩] else ranges.reverse) rest
    else if c = '-' ∧ start = false ∧ pending = false then readRanges false true ranges rest
    else if pending then
      match extendRange? c ranges with
      | some extended => readRanges false false extended rest
      | none => .reversed
    else readRanges false false (⟨c, c⟩ :: ranges) rest

/-- A class after its opening bracket; the flag says whether it is negated. -/
def readClass : Line → Bool × ClassRead
  | '!' :: rest => (true, readRanges true false [] rest)
  | '^' :: rest => (true, readRanges true false [] rest)
  | rest => (false, readRanges true false [] rest)

/-- Two stars: what they become depends on the character before them and on the text after them. -/
def readStars (d : Draft) (before : Option Char) (after : Line) : Draft × Line :=
  if d.atBranchStart then
    match after with
    | [] => (d.push .leadingDirectories, [])
    | '/' :: rest => (d.push .leadingDirectories, rest)
    | _ => (d.pushRuns, after)
  else if before = some '/' ∨ (d.isNested ∧ (before = some ',' ∨ before = some '\x7b')) then
    match after with
    | [] => (d.pushDirectories .everythingBelow, [])
    | '/' :: rest => (d.pushDirectories .innerDirectories, rest)
    | ',' :: _ => if d.isNested then (d.pushDirectories .everythingBelow, after) else (d.pushRuns, after)
    | '\x7d' :: _ =>
      if d.isNested then (d.pushDirectories .everythingBelow, after) else (d.pushRuns, after)
    | _ => (d.pushRuns, after)
  else (d.pushRuns, after)

/-- Reads a pattern; a pattern with unbalanced braces, a dangling backslash or a reversed range is
none. Every round takes a character, so as many rounds as there are characters are enough. -/
def readFrom : Nat → Draft → Option Char → Line → Option Draft
  | 0, d, _, _ => some d
  | _ + 1, d, _, [] => some d
  | n + 1, d, before, c :: rest =>
    match c with
    | '?' => readFrom n (d.push .anyOctet) (some c) rest
    | '*' =>
      match rest with
      | '*' :: after =>
        let (read, left) := readStars d before after
        readFrom n read (if left.length < after.length then some '/' else some '*') left
      | _ => readFrom n (d.push .anyRun) (some c) rest
    | '[' =>
      if d.plainBrackets then readFrom n (d.push (.char c)) (some c) rest
      else
        match readClass rest with
        | (negated, .closed ranges left) => readFrom n (d.push (.oneOf negated ranges)) (some ']') left
        | (_, .unclosed) =>
          readFrom n ({ d with plainBrackets := true }.push (.char c)) (some c) rest
        | (_, .reversed) => none
    | '\x7b' => readFrom n d.openBrace (some c) rest
    | '\x7d' => d.closeBrace?.bind fun closed => readFrom n closed (some c) rest
    | ',' => readFrom n d.comma (some c) rest
    | '\\' =>
      match rest with
      | [] => none
      | escaped :: left => readFrom n (d.push (.char escaped)) (some escaped) left
    | _ => readFrom n (d.push (.char c)) (some c) rest

def read? (text : Line) : Option (List IgnoreToken) :=
  match readFrom text.length {} none text with
  | some ⟨[branch], _, _⟩ => some branch.reverse
  | _ => none

/-- A text as its octets, each written as the character with its number. -/
def octetChars (s : Line) : Line :=
  (String.ofList s).toUTF8.toList.map fun octet => Char.ofNat octet.toNat

/-- The octets of a range's ends stand for themselves, but the last of the first end and the first of
the last end are joined to a range of octets. -/
def rangeHolds (r : CharRange) (octet : Char) : Bool :=
  let first := octetChars [r.first]
  let last := octetChars [r.last]
  if r.first = r.last then first.contains octet
  else
    first.dropLast.contains octet || (last.drop 1).contains octet ||
      (first.getLast?.any (· ≤ octet) && last.head?.any (octet ≤ ·))

def anything : Pattern := .many (.single fun _ => true)

def slash : Pattern := .char '/'

def belowOrHere : Pattern := .seq anything slash

mutual

/-- The pattern a token stands for; an alternative that is empty does not count. -/
def tokenPattern : IgnoreToken → Pattern
  | .char c => .all ((octetChars [c]).map .char)
  | .anyOctet => .noneOf ['/']
  | .anyRun => .many (.noneOf ['/'])
  | .leadingDirectories => .alt (.optional slash) belowOrHere
  | .innerDirectories => .alt slash (.seq slash belowOrHere)
  | .everythingBelow => .seq slash anything
  | .oneOf negated ranges => .single fun octet => ranges.any (rangeHolds · octet) != negated
  | .alternatives branches =>
    match branchPatterns branches with
    | [] => .empty
    | patterns => .any patterns

def tokensPattern : List IgnoreToken → Pattern
  | [] => .empty
  | token :: rest => .seq (tokenPattern token) (tokensPattern rest)

def branchPatterns : List (List IgnoreToken) → List Pattern
  | [] => []
  | [] :: rest => branchPatterns rest
  | branch :: rest => tokensPattern branch :: branchPatterns rest

end

/-- A recursive wildcard alone matches every path. -/
def pattern : List IgnoreToken → Pattern
  | [.leadingDirectories] => anything
  | tokens => tokensPattern tokens

def isMatch (tokens : List IgnoreToken) (path : Line) : Bool :=
  ((Pattern.seq (pattern tokens) .textEnd).match? (octetChars path)).isSome

end IgnoreGlob
end CodeAtlas
