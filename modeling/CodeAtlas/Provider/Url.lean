import CodeAtlas.Text.Natural

/-!
Absolute addresses with a host. Well-known schemes have a port of their own, take backslashes for
slashes, and read hosts that are numbers as such.
-/
namespace CodeAtlas

inductive Host where
  | domain (name : String)
  | ipv4 (a b c d : Nat)
  deriving DecidableEq, Repr

structure Url where
  scheme : String
  host : Host
  port : Option Nat
  path : String
  deriving DecidableEq, Repr

namespace Url

def defaultPort? (scheme : String) : Option Nat :=
  ([("http", 80), ("https", 443), ("ws", 80), ("wss", 443), ("ftp", 21)].find? fun entry =>
    entry.1 == scheme).map Prod.snd

def isWellKnown (scheme : String) : Bool := (defaultPort? scheme).isSome

def isControlOrSpace (c : Char) : Bool := c.toNat ≤ 32

/-- Without control characters and spaces around it, and without tabs and line ends. -/
def cleaned (s : Line) : Line :=
  (Text.dropEndWhile isControlOrSpace (s.dropWhile isControlOrSpace)).filter fun c =>
    c != '\t' && c != '\n' && c != '\r'

def isSchemeChar (c : Char) : Bool := c.isAlphanum || c == '+' || c == '-' || c == '.'

def splitScheme? (s : Line) : Option (String × Line) :=
  match s.span isSchemeChar with
  | (c :: cs, ':' :: rest) =>
    if c.isAlpha then some (String.ofList ((c :: cs).map Char.toLower), rest) else none
  | _ => none

def isSlash (wellKnown : Bool) (c : Char) : Bool := c == '/' || (wellKnown && c == '\\')

def skipSlashes? (wellKnown : Bool) (s : Line) : Option Line :=
  if wellKnown then some (s.dropWhile (isSlash true))
  else
    match s with
    | '/' :: '/' :: rest => some rest
    | _ => none

def endsHost (wellKnown : Bool) (c : Char) : Bool := isSlash wellKnown c || c == '?' || c == '#'

def forbiddenInHost : List Char :=
  [' ', '#', '/', ':', '<', '>', '?', '@', '[', '\\', ']', '^', '|']

def isDomainChar (c : Char) : Bool :=
  33 ≤ c.toNat && c.toNat < 127 && c != '%' && !forbiddenInHost.contains c

def isOpaqueChar (c : Char) : Bool :=
  32 ≤ c.toNat && c.toNat < 127 && !forbiddenInHost.contains c

def hexDigitValue? (c : Char) : Option Nat :=
  if Text.isDecimalDigit c then some (c.toNat - 48)
  else if 'a' ≤ c ∧ c ≤ 'f' then some (c.toNat - 87)
  else none

/-- A part of a numeric host: decimal, octal behind a zero, or hexadecimal. -/
def numberPart? (s : Line) : Option Nat :=
  let inBase (base : Nat) (digits : Line) : Option Nat :=
    digits.foldl (fun n c => n.bind fun n =>
      (hexDigitValue? c).bind fun d => if d < base then some (n * base + d) else none) (some 0)
  match s with
  | [] => none
  | '0' :: 'x' :: digits => inBase 16 digits
  | '0' :: c :: rest => inBase 8 (c :: rest)
  | digits => inBase 10 digits

/-- The parts of a host between its dots; a dot at the end does not count. -/
def partsOf (s : Line) : List Line :=
  let parts := Text.splitOn '.' s
  if 1 < parts.length && parts.getLast? == some [] then parts.dropLast else parts

/-- A host whose last part is a number is meant as one. -/
def isNumeric (s : Line) : Bool :=
  match (partsOf s).getLast? with
  | none => false
  | some last => (!last.isEmpty && last.all Text.isDecimalDigit) ||
      (Text.startsWith ['0', 'x'] last && (numberPart? last).isSome)

/-- The value of numeric parts; the last one fills the octets that are left. -/
def numericValue? : Nat → List Nat → Option Nat
  | _, [] => none
  | places, [last] => if last < Nat.pow 256 places then some last else none
  | places, part :: rest =>
    match places with
    | 0 => none
    | p + 1 => if part < 256 then (numericValue? p rest).map (part * Nat.pow 256 p + ·) else none

def numericHost? (s : Line) : Option Host := do
  let parts ← (partsOf s).mapM numberPart?
  let n ← if parts.length ≤ 4 then numericValue? 4 parts else none
  some (.ipv4 (n / 16777216 % 256) (n / 65536 % 256) (n / 256 % 256) (n % 256))

def host? (wellKnown : Bool) (s : Line) : Option Host :=
  if s.isEmpty then none
  else if wellKnown then
    let lower := s.map Char.toLower
    if !lower.all isDomainChar then none
    else if isNumeric lower then numericHost? lower
    else some (.domain (String.ofList lower))
  else if s.all isOpaqueChar then some (.domain (String.ofList s))
  else none

def portBound : Nat := 65536

/-- The number behind a host; none behind a colon stands for the scheme's own. -/
def port? (s : Line) : Option (Option Nat) :=
  if s.isEmpty then some none
  else if s.all Text.isDecimalDigit then (Text.natural? portBound s).map some
  else none

/-- Segments without dots; one that goes up takes away the segment before it. -/
def resolveSegments (done : List Line) : List Line → List Line
  | [] => done.reverse
  | segment :: rest =>
    let name := String.ofList (segment.map Char.toLower)
    if [".", "%2e"].contains name then
      resolveSegments (if rest.isEmpty then [] :: done else done) rest
    else if ["..", ".%2e", "%2e.", "%2e%2e"].contains name then
      resolveSegments (if rest.isEmpty then [] :: done.drop 1 else done.drop 1) rest
    else resolveSegments (segment :: done) rest

def escapedInPath : List Char := [' ', '"', '#', '<', '>', '?', '^', '`', '\x7b', '\x7d']

def hexDigit (n : Nat) : Char := if n < 10 then Char.ofNat (48 + n) else Char.ofNat (55 + n)

def encodeOctet (octet : UInt8) : Line :=
  ['%', hexDigit (octet.toNat / 16), hexDigit (octet.toNat % 16)]

def encodeChar (c : Char) : Line :=
  if c.toNat < 32 || 127 ≤ c.toNat || escapedInPath.contains c then
    (String.singleton c).toUTF8.toList.flatMap encodeOctet
  else [c]

def pathOf (wellKnown : Bool) (s : Line) : Line :=
  let text := s.takeWhile fun c => c != '?' && c != '#'
  let segments :=
    match Text.splitAll (isSlash wellKnown) text with
    | [] :: rest => resolveSegments [] rest
    | pieces => resolveSegments [] pieces
  if text.isEmpty && !wellKnown then []
  else segments.flatMap fun segment => '/' :: segment.flatMap encodeChar

def withPort (u : Url) (port : Option Nat) : Url :=
  { u with port := if port = defaultPort? u.scheme then none else port }

def ofLine? (s : Line) : Option Url := do
  let (scheme, rest) ← splitScheme? (cleaned s)
  let wellKnown := isWellKnown scheme
  if scheme = "file" then none
  else do
    let left ← skipSlashes? wellKnown rest
    let (authority, behind) := left.span fun c => !endsHost wellKnown c
    let (name, port) := (Text.afterLast '@' authority).span (· != ':')
    let host ← host? wellKnown name
    let port ← port? (port.drop 1)
    let path := pathOf wellKnown behind
    some (withPort
      ⟨scheme, host, none, String.ofList (if path.isEmpty && wellKnown then ['/'] else path)⟩ port)

def hostText : Host → String
  | .domain name => name
  | .ipv4 a b c d =>
    ".".intercalate [toString a, toString b, toString c, toString d]

def toText (u : Url) : String :=
  u.scheme ++ "://" ++ hostText u.host ++
    (match u.port with
      | some port => ":" ++ toString port
      | none => "") ++ u.path

end Url
end CodeAtlas
