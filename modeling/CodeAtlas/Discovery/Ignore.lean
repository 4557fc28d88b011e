import CodeAtlas.Discovery.IgnoreGlob
import CodeAtlas.FileTree

/-!
Ignore files: lists of rules that say which files below their directory are passed over. Of the rules
in one file the last that matches counts.
-/
namespace CodeAtlas

structure IgnoreRule where
  glob : List IgnoreToken
  keeps : Bool
  onlyDirectories : Bool
  deriving Repr

namespace IgnoreRule

/-- Blanks at the end do not count unless one of them is escaped. -/
def trimmed (line : Line) : Line :=
  if Text.endsWith ['\\', ' '] line then line else Text.trimEnd line

/-- A slash at the end, which may be escaped, restricts a rule to directories. -/
def splitDirectoryMark (line : Line) : Bool × Line :=
  match Text.stripSuffix? ['/'] line with
  | none => (false, line)
  | some stem => (true, (Text.stripSuffix? ['\\'] stem).getD stem)

/-- A pattern without a slash matches at any depth. -/
def anywhere (anchored : Bool) (line : Line) : Line :=
  if anchored || line.contains '/' || line = ['*', '*'] then line else '*' :: '*' :: '/' :: line

/-- What lies inside a directory is meant, never the directory itself. -/
def inside (line : Line) : Line :=
  if Text.endsWith ['/', '*', '*'] line then line ++ ['/', '*'] else line

def ofPattern (keeps anchored : Bool) (line : Line) : Option IgnoreRule :=
  let (onlyDirectories, stem) := splitDirectoryMark line
  (IgnoreGlob.read? (inside (anywhere anchored stem))).map fun glob => ⟨glob, keeps, onlyDirectories⟩

/-- A slash in front anchors a pattern to the directory of its file. -/
def ofMarked (keeps : Bool) : Line → Option IgnoreRule
  | '/' :: rest => ofPattern keeps true rest
  | line => ofPattern keeps false line

def ofLine (line : Line) : Option IgnoreRule :=
  match line with
  | '#' :: _ => none
  | _ =>
    match trimmed line with
    | [] => none
    | '\\' :: '!' :: rest => ofPattern false false ('!' :: rest)
    | '\\' :: '#' :: rest => ofPattern false false ('#' :: rest)
    | '!' :: rest => ofMarked true rest
    | text => ofMarked false text

def applies (rule : IgnoreRule) (isDirectory : Bool) (path : Line) : Bool :=
  (isDirectory || !rule.onlyDirectories) && IgnoreGlob.isMatch rule.glob path

def splitOctets (octets : List UInt8) : List (List UInt8) := octets.foldr step [[]]
where
  step (octet : UInt8) (pieces : List (List UInt8)) : List (List UInt8) :=
    if octet = 10 then [] :: pieces else
      match pieces with
      | [] => [[octet]]
      | piece :: rest => (octet :: piece) :: rest

/-- The lines of a file up to the first one that is not text. -/
def readableLines (content : ByteArray) : List Line :=
  ((splitOctets content.toList).map fun octets => String.fromUTF8? ⟨octets.toArray⟩)
    |>.takeWhile Option.isSome
    |>.map fun text => Text.chomp (text.getD "").toList

def byteOrderMark : Char := Char.ofNat 0xFEFF

/-- A byte order mark in front of the first line does not count. -/
def ofContent (content : ByteArray) : List IgnoreRule :=
  match readableLines content with
  | [] => []
  | first :: rest => (first.dropWhile (· == byteOrderMark) :: rest).filterMap ofLine

end IgnoreRule

inductive Verdict where
  | undecided
  | ignored
  | kept
  deriving DecidableEq, Repr

namespace Verdict

def orElse : Verdict → Verdict → Verdict
  | undecided, other => other
  | verdict, _ => verdict

def first (verdicts : List Verdict) : Verdict := verdicts.foldr orElse undecided

def ofRules (rules : List IgnoreRule) (isDirectory : Bool) (path : Line) : Verdict :=
  match rules.reverse.find? (·.applies isDirectory path) with
  | none => undecided
  | some rule => if rule.keeps then kept else ignored

end Verdict

/-- Where a directory's rules lie, those that count more first. -/
def ignoreFiles : List Location :=
  [[".ignore".toList], [".gitignore".toList], [".git".toList, "info".toList, "exclude".toList]]

namespace FileTree

def rulesAt (files : FileTree) (location : Location) : List IgnoreRule :=
  match files.lookup? location with
  | some (.file content) => IgnoreRule.ofContent content
  | _ => []

def directoriesAbove (location : Location) : List Location :=
  (List.range location.length).reverse.map location.take

/-- What the files of one kind say of an entry: the nearest one that says something decides. -/
def verdictOf (files : FileTree) (kind location : Location) (isDirectory : Bool) : Verdict :=
  Verdict.first ((directoriesAbove location).map fun directory =>
    Verdict.ofRules (files.rulesAt (directory ++ kind)) isDirectory
      (Text.join ['/'] (location.drop directory.length)))

/-- The text of an entry's path below the directory the global patterns start from. -/
def belowAnchor (excludes : GlobalExcludes) (location : Location) : Line :=
  let path := (pathOf location).text
  match Text.stripPrefix? excludes.anchor path with
  | some rest => (Text.stripPrefix? ['/'] rest).getD rest
  | none => path

def globalVerdict (files : FileTree) (location : Location) (isDirectory : Bool) : Verdict :=
  match files.globalExcludes with
  | none => .undecided
  | some excludes =>
    Verdict.ofRules (files.rulesAt excludes.file) isDirectory (belowAnchor excludes location)

/-- What all rules say of an entry: those of directories by their kind, then the global ones. -/
def verdict (files : FileTree) (location : Location) : Verdict :=
  let isDirectory := files.isDirectory location
  Verdict.first ((ignoreFiles.map fun kind => files.verdictOf kind location isDirectory) ++
    [files.globalVerdict location isDirectory])

def isHidden (location : Location) : Bool := (location.getLast?.getD []).head? == some '.'

/-- Entries that are ignored are passed over, and hidden ones unless a rule keeps them. -/
def isPassedOver (files : FileTree) (location : Location) : Bool :=
  match files.verdict location with
  | .ignored => true
  | .kept => false
  | .undecided => isHidden location

/-- A location is reached from a directory above it when nothing on the way is passed over. -/
def isReached (files : FileTree) (root location : Location) : Bool :=
  (List.range (location.length - root.length)).all fun i =>
    !files.isPassedOver (location.take (root.length + i + 1))

def filesBelow (files : FileTree) (root : Location) : List Location :=
  (files.entries.map Prod.fst).filter fun location =>
    files.isFile location && location.take root.length == root && files.isReached root location

end FileTree
end CodeAtlas
