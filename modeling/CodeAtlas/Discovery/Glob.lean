import CodeAtlas.Text.Lines

/-!
Wildcard patterns for relative paths. A single wildcard, a run of them and a bracketed class never
match a slash; a recursive wildcard is a whole component and stands for any number of directories.
-/
namespace CodeAtlas

inductive GlobProblem where
  | tooManyStars
  | partialComponent
  | badClass
  deriving DecidableEq, Repr

structure GlobFault where
  position : Nat
  problem : GlobProblem
  deriving DecidableEq, Repr

def GlobFault.message (f : GlobFault) : String :=
  "Pattern syntax error near position " ++ toString f.position ++ ": " ++
    match f.problem with
    | .tooManyStars => "wildcards are either regular `*` or recursive `**`"
    | .partialComponent => "recursive wildcards must form a single path component"
    | .badClass => "invalid range pattern"

structure CharRange where
  first : Char
  last : Char
  deriving DecidableEq, Repr

def CharRange.holds (r : CharRange) (c : Char) : Bool := r.first ≤ c && c ≤ r.last

inductive GlobToken where
  | char (c : Char)
  | anyChar
  | anyRun
  | directories
  | oneOf (negated : Bool) (ranges : List CharRange)
  deriving DecidableEq, Repr

abbrev Glob := List GlobToken

namespace Glob

/-- The ranges of a class; a hyphen between two characters makes one range of them. -/
def rangesOf : Line → List CharRange
  | first :: '-' :: last :: rest => ⟨first, last⟩ :: rangesOf rest
  | c :: rest => ⟨c, c⟩ :: rangesOf rest
  | [] => []

/-- A class after its opening bracket: it holds at least one character, which may be a closing
bracket. The text after the class comes with it. -/
def readClass? : Line → Option (GlobToken × Line)
  | '!' :: first :: rest => close true first rest
  | '!' :: [] => none
  | first :: rest => close false first rest
  | [] => none
where
  close (negated : Bool) (first : Char) (rest : Line) : Option (GlobToken × Line) :=
    match rest.dropWhile (· != ']') with
    | [] => none
    | _ :: after => some (.oneOf negated (rangesOf (first :: rest.takeWhile (· != ']'))), after)

def readDirectories (before : Option Char) (position : Nat) (after : Line) :
    Except GlobFault Line :=
  if before = none ∨ before = some '/' then
    match after with
    | [] => .ok []
    | '/' :: rest => .ok rest
    | _ => .error ⟨position + 2, .partialComponent⟩
  else .error ⟨position - 1, .partialComponent⟩

/-- Reads a pattern from a position on. Every round takes at least one character, so as many rounds
as there are characters are enough. -/
def compileFrom : Nat → Option Char → Nat → Line → Except GlobFault Glob
  | 0, _, _, _ => .ok []
  | _ + 1, _, _, [] => .ok []
  | n + 1, before, position, c :: rest =>
    let continueWith (tokens : Glob) (last : Char) (left : Line) : Except GlobFault Glob :=
      match compileFrom n (some last) (position + (rest.length + 1 - left.length)) left with
      | .ok later => .ok (tokens ++ later)
      | .error fault => .error fault
    match c with
    | '?' => continueWith [.anyChar] '?' rest
    | '*' =>
      match rest with
      | '*' :: '*' :: _ => .error ⟨position + 2, .tooManyStars⟩
      | '*' :: after =>
        match readDirectories before position after with
        | .ok left => continueWith [.directories] '/' left
        | .error fault => .error fault
      | _ => continueWith [.anyRun] '*' rest
    | '[' =>
      match readClass? rest with
      | some (token, left) => continueWith [token] ']' left
      | none => .error ⟨position, .badClass⟩
    | _ => continueWith [.char c] c rest

def compile (pattern : String) : Except GlobFault Glob :=
  let text := pattern.toList
  compileFrom text.length none 0 text

def afterRun (next : Line → Bool) : Line → Bool
  | [] => next []
  | c :: rest => next (c :: rest) || (c != '/' && afterRun next rest)

/-- Goes on behind any slash, or at the end of the path. -/
def afterSlash (next : Line → Bool) : Line → Bool
  | [] => next []
  | c :: rest => (c == '/' && next rest) || afterSlash next rest

def accepts (token : GlobToken) (c : Char) : Bool :=
  match token with
  | .char expected => c == expected
  | .anyChar => c != '/'
  | .oneOf negated ranges => c != '/' && (ranges.any (·.holds c) != negated)
  | .anyRun | .directories => false

def isMatch : Glob → Line → Bool
  | [], text => text.isEmpty
  | .anyRun :: later, text => afterRun (isMatch later) text
  | .directories :: later, text => isMatch later text || afterSlash (isMatch later) text
  | _ :: _, [] => false
  | token :: later, c :: rest => accepts token c && isMatch later rest

end Glob
end CodeAtlas
