import CodeAtlas.Discovery.Ignore

/-!
Which source files a run works on: those that are selected, or all that match a pattern, less those
that are excluded.
-/
namespace CodeAtlas

def defaultPatterns : List String :=
  ["**/*.go", "**/*.java", "**/*.py", "**/*.pyi", "**/*.ts", "**/*.tsx", "**/*.mts", "**/*.cts",
   "**/*.js", "**/*.jsx", "**/*.mjs", "**/*.cjs"]

def defaultIgnores : List String :=
  ["**/node_modules/**", "**/vendor/**", "**/dist/**", "**/build/**", "**/target/**",
   "**/__pycache__/**", "**/.venv/**", "**/*.min.js", "**/*.d.ts"]

inductive DiscoveryFault where
  | pattern (text : String) (fault : GlobFault)
  | root (path : Path) (fault : FileFault)
  deriving DecidableEq, Repr

def DiscoveryFault.message : DiscoveryFault → String
  | .pattern text fault => "invalid glob pattern '" ++ text ++ "': " ++ fault.message
  | .root path fault => "project root " ++ path.toString ++ " is not accessible: " ++ fault.message

namespace Path

def componentRank : Component → Nat
  | .root => 0
  | .here => 1
  | .up => 2
  | .name _ => 3

def componentText : Component → Line
  | .name text => text
  | _ => []

def componentPrecedes (a b : Component) : Bool :=
  componentRank a < componentRank b ||
    (componentRank a == componentRank b && componentText a < componentText b)

def precedesIn : List Component → List Component → Bool
  | _, [] => false
  | [], _ :: _ => true
  | a :: as, b :: bs => componentPrecedes a b || (a == b && precedesIn as bs)

def precedes (p q : Path) : Bool := precedesIn p.components q.components

def insertSorted (p : Path) : List Path → List Path
  | [] => [p]
  | q :: rest =>
    if p.precedes q then p :: q :: rest
    else if p.components = q.components then q :: rest
    else q :: insertSorted p rest

def sorted (paths : List Path) : List Path := paths.foldr insertSorted []

end Path

/-- Which files to look for. Relative paths start from the root; an empty selection means all files
that match one of the patterns and none of the ignored ones. -/
structure Discovery where
  root : Path
  selected : List Path := []
  excluded : List Path := []
  patterns : List String := defaultPatterns
  ignores : List String := defaultIgnores
  deriving DecidableEq, Repr

namespace Discovery

def canonicalRoot (d : Discovery) (files : FileTree) : Except DiscoveryFault Path :=
  match files.canonical d.root with
  | .ok root => .ok root
  | .error fault => .error (.root d.root fault)

/-- The absolute form of a path, without dots where it leads somewhere. -/
def absolute (files : FileTree) (root path : Path) : Path :=
  match files.canonical (root.join path) with
  | .ok canonical => canonical
  | .error _ => root.join path

def compileAll : List String → Except DiscoveryFault (List Glob)
  | [] => .ok []
  | pattern :: rest =>
    match Glob.compile pattern with
    | .error fault => .error (.pattern pattern fault)
    | .ok glob =>
      match compileAll rest with
      | .error fault => .error fault
      | .ok globs => .ok (glob :: globs)

def explicit (d : Discovery) (files : FileTree) (root : Path) : List Path :=
  (d.selected.map (absolute files root)).filter files.isFileAt

def matches? (patterns ignores : List Glob) (relative : Line) : Bool :=
  patterns.any (Glob.isMatch · relative) && !ignores.any (Glob.isMatch · relative)

def walk (d : Discovery) (files : FileTree) (root : Location) : Except DiscoveryFault (List Path) :=
  match compileAll d.patterns with
  | .error fault => .error fault
  | .ok patterns =>
    match compileAll d.ignores with
    | .error fault => .error fault
    | .ok ignores =>
      .ok (((files.filesBelow root).filter fun location =>
        matches? patterns ignores (Text.join ['/'] (location.drop root.length))).map
          FileTree.pathOf)

def candidates (d : Discovery) (files : FileTree) (root : Path) (location : Location) :
    Except DiscoveryFault (List Path) :=
  if d.selected.isEmpty then d.walk files location else .ok (d.explicit files root)

def withoutExcluded (d : Discovery) (files : FileTree) (root : Path) (found : List Path) :
    List Path :=
  let excluded := (d.excluded.map (absolute files root)).map Path.components
  found.filter fun p => !excluded.contains p.components

/-- The absolute paths of the files, sorted and each of them once. -/
def resolve (d : Discovery) (files : FileTree) : Except DiscoveryFault (List Path) :=
  match files.locate d.root with
  | .error fault => .error (.root d.root fault)
  | .ok location =>
    let root := FileTree.pathOf location
    match d.candidates files root location with
    | .error fault => .error fault
    | .ok found => .ok (Path.sorted (d.withoutExcluded files root found))

end Discovery
end CodeAtlas
