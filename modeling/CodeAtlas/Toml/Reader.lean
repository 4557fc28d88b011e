import CodeAtlas.Toml.Scalar

/-!
Reading configuration files: lines that are headers or entries, with comments and blank lines
between them.
-/
namespace CodeAtlas.Toml

def skipSpaces (s : Line) : Line := s.dropWhile isSpace

def skipComment? : Line → Option Line
  | '#' :: rest =>
    let comment := (rest.takeWhile (· != '\n'))
    let body := Text.chomp comment
    if body.any isControl then none
    else if comment.length = body.length then some (rest.drop body.length)
    else if rest.drop comment.length = [] then none
    else some (rest.drop body.length)
  | s => some s

def endLine? (s : Line) : Option Line :=
  match skipComment? (skipSpaces s) with
  | some [] => some []
  | some ('\n' :: rest) => some rest
  | some ('\r' :: '\n' :: rest) => some rest
  | _ => none

def skipGaps : Nat → Line → Option Line
  | 0, s => some s
  | n + 1, s =>
    match skipSpaces s with
    | '\n' :: rest => skipGaps n rest
    | '\r' :: '\n' :: rest => skipGaps n rest
    | '#' :: rest => (skipComment? ('#' :: rest)).bind (skipGaps n)
    | left => some left

def skipGap (s : Line) : Option Line := skipGaps (s.length + 1) s

def isBareKeyChar (c : Char) : Bool := c.isAlphanum || c == '_' || c == '-'

def readKeyPart (s : Line) : Option (String × Line) :=
  match s with
  | '"' :: rest => (readBasic rest.length rest).map fun (text, left) => (String.ofList text, left)
  | '\'' :: rest => (readLiteral rest).map fun (text, left) => (String.ofList text, left)
  | _ =>
    let bare := s.takeWhile isBareKeyChar
    if bare.isEmpty then none else some (String.ofList bare, s.drop bare.length)

def readKeyParts : Nat → Line → Option (List String × Line)
  | 0, s => some ([], s)
  | n + 1, s =>
    match skipSpaces s with
    | '.' :: rest => do
      let (part, left) ← readKeyPart (skipSpaces rest)
      let (parts, after) ← readKeyParts n left
      some (part :: parts, after)
    | _ => some ([], s)

structure Key where
  path : List String
  name : String
  deriving DecidableEq, Repr

def Key.ofParts (first : String) (more : List String) : Key :=
  ⟨(first :: more).dropLast, (first :: more).getLast (by simp)⟩

def Key.parts (k : Key) : List String := k.path ++ [k.name]

def readKey (s : Line) : Option (Key × Line) := do
  let (first, left) ← readKeyPart s
  let (more, after) ← readKeyParts left.length left
  some (Key.ofParts first more, after)

def readEntry (value : Line → Option (Toml × Line)) (s : Line) : Option ((Key × Toml) × Line) := do
  let (key, left) ← readKey s
  match skipSpaces left with
  | '=' :: rest => do
    let (v, after) ← value (skipSpaces rest)
    some ((key, v), after)
  | _ => none

def readElements (value : Line → Option (Toml × Line)) : Nat → Line → Option (List Toml × Line)
  | 0, _ => none
  | n + 1, s => do
    match ← skipGap s with
    | ']' :: rest => some ([], rest)
    | left => do
      let (element, behind) ← value left
      match ← skipGap behind with
      | ',' :: rest => do
        let (elements, after) ← readElements value n rest
        some (element :: elements, after)
      | ']' :: rest => some ([element], rest)
      | _ => none

def readBraced (value : Line → Option (Toml × Line)) : Nat → Toml → Line → Option (Toml × Line)
  | 0, _, _ => none
  | n + 1, t, s => do
    match ← skipGap s with
    | '\x7d' :: rest => some (t, rest)
    | left => do
      let ((key, v), behind) ← readEntry value left
      let added ← insert key.path key.name v t
      match ← skipGap behind with
      | ',' :: rest => readBraced value n added rest
      | '\x7d' :: rest => some (added, rest)
      | _ => none

def readValue : Nat → Line → Option (Toml × Line)
  | depth, s =>
    match s with
    | '"' :: _ | '\'' :: _ => (readString s).map fun (text, rest) => (.string text, rest)
    | '[' :: rest =>
      match depth with
      | 0 => none
      | d + 1 =>
        (readElements (readValue d) (rest.length + 1) rest).map fun (elements, left) =>
          (.array elements, left)
    | '\x7b' :: rest =>
      match depth with
      | 0 => none
      | d + 1 => readBraced (readValue d) (rest.length + 1) (.table .braced []) rest
    | _ => readWord s

def deepest : Nat := 80

/-- The document so far, and the path of the table that entries go to. -/
structure Draft where
  root : Toml := emptyRoot
  header : List String := []

def Draft.addEntry (d : Draft) (key : Key) (value : Toml) : Option Draft :=
  (descend false (insert key.path key.name value) d.header d.root).map fun root =>
    { d with root := root }

def Draft.openTable (d : Draft) (key : Key) (isElement : Bool) : Option Draft :=
  (descend false ((if isElement then stateElement else stateTable) key.name) key.path d.root).map
    fun root => ⟨root, key.parts⟩

def readHeader (isElement : Bool) (s : Line) : Option (Key × Line) := do
  let (key, left) ← readKey (skipSpaces s)
  match isElement, skipSpaces left with
  | false, ']' :: rest => some (key, rest)
  | true, ']' :: ']' :: rest => some (key, rest)
  | _, _ => none

def readStatement (d : Draft) (s : Line) : Option (Draft × Line) :=
  match skipSpaces s with
  | [] => some (d, [])
  | '#' :: _ | '\n' :: _ | '\r' :: _ => (endLine? s).map fun rest => (d, rest)
  | '[' :: '[' :: rest => do
    let (key, left) ← readHeader true rest
    let opened ← d.openTable key true
    let after ← endLine? left
    some (opened, after)
  | '[' :: rest => do
    let (key, left) ← readHeader false rest
    let opened ← d.openTable key false
    let after ← endLine? left
    some (opened, after)
  | left => do
    let ((key, value), behind) ← readEntry (readValue deepest) left
    let added ← d.addEntry key value
    let after ← endLine? behind
    some (added, after)

/-- Reads statements to the end; each of them takes at least one character. -/
def readStatements : Nat → Draft → Line → Option Draft
  | _, d, [] => some d
  | 0, _, _ :: _ => none
  | n + 1, d, c :: rest => (readStatement d (c :: rest)).bind fun (read, left) => readStatements n read left

def dropByteOrderMark : Line → Line
  | c :: rest => if c = Char.ofNat 0xFEFF then rest else c :: rest
  | [] => []

def read? (text : String) : Option Toml :=
  let s := dropByteOrderMark text.toList
  (readStatements (s.length + 1) {} s).map Draft.root

end CodeAtlas.Toml
