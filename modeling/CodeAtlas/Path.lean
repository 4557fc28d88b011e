import CodeAtlas.Text.Lines

/-!
Slash-separated paths. A path is its text; its components, parent and file name are read off the
text, where empty components and every `.` but a leading one count for nothing.
-/
namespace CodeAtlas

inductive Component where
  | root
  | here
  | up
  | name (text : Line)
  deriving DecidableEq, Repr

structure Path where
  text : Line
  deriving DecidableEq, Repr

namespace Path

def ofString (s : String) : Path := ⟨s.toList⟩

def toString (p : Path) : String := String.ofList p.text

def isAbsolute (p : Path) : Bool := p.text.head? == some '/'

/-- A component with the positions in the text where it begins and ends. -/
structure Segment where
  component : Component
  start : Nat
  stop : Nat
  deriving DecidableEq, Repr

def classify (piece : Line) : Option Component :=
  if piece = [] || piece = ['.'] then none
  else if piece = ['.', '.'] then some .up
  else some (.name piece)

def segmentsFrom (start : Nat) : List Line → List Segment
  | [] => []
  | piece :: rest =>
    let later := segmentsFrom (start + piece.length + 1) rest
    match classify piece with
    | none => later
    | some component => ⟨component, start, start + piece.length⟩ :: later

def segments (p : Path) : List Segment :=
  match Text.splitOn '/' p.text with
  | ['.'] :: rest => ⟨.here, 0, 1⟩ :: segmentsFrom 2 rest
  | [] :: rest => if p.isAbsolute then ⟨.root, 0, 1⟩ :: segmentsFrom 1 rest else []
  | pieces => segmentsFrom 0 pieces

def components (p : Path) : List Component := p.segments.map (·.component)

def spanning (p : Path) (segments : List Segment) : Path :=
  match segments.head?, segments.getLast? with
  | some first, some last => ⟨(p.text.take last.stop).drop first.start⟩
  | _, _ => ⟨[]⟩

def fileName? (p : Path) : Option Line :=
  match p.segments.getLast? with
  | some ⟨.name text, _, _⟩ => some text
  | _ => none

/-- The path without its last component; the root and the empty path have none. -/
def parent? (p : Path) : Option Path :=
  match p.segments.getLast? with
  | none => none
  | some ⟨.root, _, _⟩ => none
  | some _ => some (p.spanning p.segments.dropLast)

/-- A file name at its last dot; a dot that begins the name does not count. -/
def splitAtDot (name : Line) : Line × Option Line :=
  match name.reverse.span (· != '.') with
  | (_, []) => (name, none)
  | (_, [_]) => (name, none)
  | (extension, _ :: stem) => (stem.reverse, some extension.reverse)

def fileStem? (p : Path) : Option Line := p.fileName?.map fun name => (splitAtDot name).1

def extension? (p : Path) : Option Line := p.fileName?.bind fun name => (splitAtDot name).2

/-- An absolute second path replaces the first. -/
def join (p q : Path) : Path :=
  if q.isAbsolute then q
  else if p.text.isEmpty || p.text.getLast? == some '/' then ⟨p.text ++ q.text⟩
  else ⟨p.text ++ '/' :: q.text⟩

def withFileName (p : Path) (name : Line) : Path :=
  match p.fileName?, p.parent? with
  | some _, some parent => parent.join ⟨name⟩
  | _, _ => p.join ⟨name⟩

/-- What is left of the segments after components that agree with `base`. -/
def dropComponents : List Component → List Segment → Option (List Segment)
  | [], rest => some rest
  | _ :: _, [] => none
  | c :: cs, s :: rest => if c = s.component then dropComponents cs rest else none

def below? (p base : Path) : Option Path :=
  (dropComponents base.components p.segments).map p.spanning

/-- Relative to `root` where the path lies below it, with forward slashes only. -/
def relativeTo (p root : Path) : Line := Text.replace '\\' '/' ((p.below? root).getD p).text

end Path
end CodeAtlas
