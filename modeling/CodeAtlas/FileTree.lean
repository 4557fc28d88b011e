import CodeAtlas.Path

/-!
Trees of files and directories. A path is followed from the root or from the working directory,
one piece of its text after the other; every piece but the first must be looked up in a directory.
-/
namespace CodeAtlas

inductive FileFault where
  | notFound
  | isDirectory
  | notDirectory
  | exists
  | notText
  | other (reason : String)
  deriving DecidableEq, Repr

def FileFault.message : FileFault → String
  | notFound => "No such file or directory (os error 2)"
  | isDirectory => "Is a directory (os error 21)"
  | notDirectory => "Not a directory (os error 20)"
  | «exists» => "File exists (os error 17)"
  | notText => "stream did not contain valid UTF-8"
  | other reason => reason

inductive Entry where
  | directory
  | file (content : ByteArray)

/-- The names on the way from the root to an entry. -/
abbrev Location := List Line

/-- A file of ignore rules that count wherever files are looked for, and the text of the directory its
patterns start from; without one they start from the root. -/
structure GlobalExcludes where
  file : Location
  anchor : Line := []

structure FileTree where make ::
  entries : List (Location × Entry) := []
  workingDirectory : Location := []
  globalExcludes : Option GlobalExcludes := none

namespace FileTree

/-- Files of a user who has no global excludes. -/
def mk (entries : List (Location × Entry)) (workingDirectory : Location) : FileTree :=
  { entries, workingDirectory }

/-- The root is always a directory. -/
def lookup? (t : FileTree) (location : Location) : Option Entry :=
  if location = [] then some .directory
  else (t.entries.find? fun e => e.1 == location).map Prod.snd

def isDirectory (t : FileTree) (location : Location) : Bool :=
  match t.lookup? location with
  | some .directory => true
  | _ => false

def isFile (t : FileTree) (location : Location) : Bool :=
  match t.lookup? location with
  | some (.file _) => true
  | _ => false

/-- Puts an entry in place of one at the same location, or at the end. -/
def put (t : FileTree) (location : Location) (entry : Entry) : FileTree :=
  { t with entries := go t.entries }
where
  go : List (Location × Entry) → List (Location × Entry)
    | [] => [(location, entry)]
    | e :: rest => if e.1 = location then (location, entry) :: rest else e :: go rest

def children (t : FileTree) (location : Location) : List (Location × Entry) :=
  t.entries.filter fun e => e.1.dropLast == location && !e.1.isEmpty

def enter (t : FileTree) (location : Location) (piece : Line) : Except FileFault Location :=
  if t.isDirectory location then
    if piece = [] ∨ piece = ['.'] then .ok location
    else if piece = ['.', '.'] then .ok location.dropLast
    else if (t.lookup? (location ++ [piece])).isSome then .ok (location ++ [piece])
    else .error .notFound
  else .error .notDirectory

def follow (t : FileTree) (location : Location) : List Line → Except FileFault Location
  | [] => .ok location
  | piece :: rest =>
    match t.enter location piece with
    | .ok next => follow t next rest
    | .error fault => .error fault

def origin (t : FileTree) (p : Path) : Location := if p.isAbsolute then [] else t.workingDirectory

def locate (t : FileTree) (p : Path) : Except FileFault Location :=
  if p.text = [] then .error .notFound
  else t.follow (t.origin p) (Text.splitOn '/' p.text)

def pathOf (location : Location) : Path := ⟨'/' :: Text.join ['/'] location⟩

def canonical (t : FileTree) (p : Path) : Except FileFault Path := (t.locate p).map pathOf

def exists? (t : FileTree) (p : Path) : Bool :=
  match t.locate p with
  | .ok _ => true
  | .error _ => false

def isFileAt (t : FileTree) (p : Path) : Bool :=
  match t.locate p with
  | .ok location => t.isFile location
  | .error _ => false

def isDirectoryAt (t : FileTree) (p : Path) : Bool :=
  match t.locate p with
  | .ok location => t.isDirectory location
  | .error _ => false

def read (t : FileTree) (p : Path) : Except FileFault ByteArray :=
  match t.locate p with
  | .error fault => .error fault
  | .ok location =>
    match t.lookup? location with
    | some (.file content) => .ok content
    | _ => .error .isDirectory

def readText (t : FileTree) (p : Path) : Except FileFault String :=
  match t.read p with
  | .error fault => .error fault
  | .ok content =>
    match String.fromUTF8? content with
    | some text => .ok text
    | none => .error .notText

/-- Where an entry would be put: under the last piece of a path, in the directory that the pieces
before it lead to. A path whose last piece is no name has the fault given. -/
def slot (t : FileTree) (p : Path) (nameless : FileFault) : Except FileFault Location :=
  match (Text.splitOn '/' p.text).reverse.dropWhile List.isEmpty with
  | [] => .error (if p.text = [] then .notFound else nameless)
  | last :: before =>
    match t.follow (t.origin p) before.reverse with
    | .error fault => .error fault
    | .ok location =>
      if t.isDirectory location then
        if last = ['.'] ∨ last = ['.', '.'] then .error nameless else .ok (location ++ [last])
      else .error .notDirectory

/-- Puts a file in place of one that is there already. A path that ends in a slash can only lead to a
directory. -/
def write (t : FileTree) (p : Path) (content : ByteArray) : Except FileFault FileTree :=
  match t.slot p .isDirectory with
  | .error fault => .error fault
  | .ok location =>
    if p.text.getLast? = some '/' ∨ t.isDirectory location = true then .error .isDirectory
    else .ok (t.put location (.file content))

def makeDirectory (t : FileTree) (p : Path) : Except FileFault FileTree :=
  match t.slot p .exists with
  | .error fault => .error fault
  | .ok location =>
    if (t.lookup? location).isSome then .error .exists else .ok (t.put location .directory)

/-- Makes a directory and those above it; one that is there already is no fault. The number bounds how
many directories above it are made. -/
def makeDirectories (t : FileTree) : Nat → Path → Except FileFault FileTree
  | 0, _ => .ok t
  | depth + 1, p =>
    if p.text = [] then .ok t
    else
      match t.makeDirectory p with
      | .ok made => .ok made
      | .error .notFound =>
        match t.makeDirectories depth (p.parent?.getD ⟨[]⟩) with
        | .error fault => .error fault
        | .ok above =>
          match above.makeDirectory p with
          | .ok made => .ok made
          | .error fault => if above.isDirectoryAt p then .ok above else .error fault
      | .error fault => if t.isDirectoryAt p then .ok t else .error fault

def makeDirectoryAll (t : FileTree) (p : Path) : Except FileFault FileTree :=
  t.makeDirectories (p.segments.length + 1) p

def makeParent (t : FileTree) (p : Path) : Except FileFault FileTree :=
  match p.parent? with
  | some parent => if parent.text = [] then .ok t else t.makeDirectoryAll parent
  | none => .ok t

def withDirectories (t : FileTree) (base : Location) : List Line → FileTree
  | [] => t
  | name :: rest =>
    let next := base ++ [name]
    let made := if (t.lookup? next).isSome then t else t.put next .directory
    made.withDirectories next rest

def withFile (t : FileTree) (location : Location) (content : ByteArray) : FileTree :=
  (t.withDirectories [] location.dropLast).put location (.file content)

end FileTree
end CodeAtlas
