import CodeAtlas.Json.Printer

/-!
Reading JSON text. A value nests at most 127 levels deep; a fault names its cause and the place,
as a line and the number of octets read or looked at in that line.
-/
namespace CodeAtlas.Json

inductive Cause where
  | endOfList
  | endOfObject
  | endOfString
  | endOfValue
  | expectedColon
  | expectedListCommaOrEnd
  | expectedObjectCommaOrEnd
  | expectedIdent
  | expectedValue
  | invalidEscape
  | invalidNumber
  | numberOutOfRange
  | controlCharacter
  | keyMustBeString
  | loneSurrogate
  | trailingComma
  | trailingCharacters
  | endOfHexEscape
  | tooDeep
  deriving DecidableEq, Repr

def Cause.message : Cause → String
  | endOfList => "EOF while parsing a list"
  | endOfObject => "EOF while parsing an object"
  | endOfString => "EOF while parsing a string"
  | endOfValue => "EOF while parsing a value"
  | expectedColon => "expected `:`"
  | expectedListCommaOrEnd => "expected `,` or `]`"
  | expectedObjectCommaOrEnd => "expected `,` or `\x7d`"
  | expectedIdent => "expected ident"
  | expectedValue => "expected value"
  | invalidEscape => "invalid escape"
  | invalidNumber => "invalid number"
  | numberOutOfRange => "number out of range"
  | controlCharacter => "control character (\\u0000-\\u001F) found while parsing a string"
  | keyMustBeString => "key must be a string"
  | loneSurrogate => "lone leading surrogate in hex escape"
  | trailingComma => "trailing comma"
  | trailingCharacters => "trailing characters"
  | endOfHexEscape => "unexpected end of hex escape"
  | tooDeep => "recursion limit exceeded"

structure Fault where
  cause : Cause
  line : Nat
  column : Nat
  deriving DecidableEq, Repr

def Fault.message (f : Fault) : String :=
  f.cause.message ++ " at line " ++ toString f.line ++ " column " ++ toString f.column

/-- What is left of the text, and the line and the octets of that line read so far. -/
structure Cursor where
  rest : Line
  line : Nat
  column : Nat
  deriving DecidableEq, Repr

abbrev Read (α : Type) := Except Fault (α × Cursor)

namespace Cursor

def start (text : Line) : Cursor := ⟨text, 1, 0⟩

def past (cursor : Cursor) (c : Char) (rest : Line) : Cursor :=
  if c = '\n' then ⟨rest, cursor.line + 1, 0⟩ else ⟨rest, cursor.line, cursor.column + c.utf8Size⟩

def fault {α : Type} (cursor : Cursor) (cause : Cause) : Except Fault α :=
  .error ⟨cause, cursor.line, cursor.column⟩

def faultAhead {α : Type} (cursor : Cursor) (cause : Cause) : Except Fault α :=
  match cursor.rest with
  | [] => .error ⟨cause, cursor.line, cursor.column⟩
  | c :: _ =>
    if c = '\n' then .error ⟨cause, cursor.line + 1, 0⟩
    else .error ⟨cause, cursor.line, cursor.column + 1⟩

def skipBlanksIn : Line → Nat → Nat → Cursor
  | [], line, column => ⟨[], line, column⟩
  | c :: rest, line, column =>
    if c = '\n' then skipBlanksIn rest (line + 1) 0
    else if c = ' ' || c = '\t' || c = '\r' then skipBlanksIn rest line (column + 1)
    else ⟨c :: rest, line, column⟩

def skipBlanks (cursor : Cursor) : Cursor := skipBlanksIn cursor.rest cursor.line cursor.column

end Cursor

def readLetters (value : Json) : Line → Cursor → Read Json
  | [], cursor => .ok (value, cursor)
  | letter :: letters, cursor =>
    match cursor.rest with
    | [] => cursor.fault .endOfValue
    | c :: rest =>
      if c = letter then readLetters value letters (cursor.past c rest)
      else cursor.faultAhead .expectedIdent

def hexValue? (c : Char) : Option Nat :=
  if '0' ≤ c ∧ c ≤ '9' then some (c.toNat - 48)
  else if 'a' ≤ c ∧ c ≤ 'f' then some (c.toNat - 87)
  else if 'A' ≤ c ∧ c ≤ 'F' then some (c.toNat - 55)
  else none

/-- The place `count` octets further on, which may lie inside a character. -/
def octetsAhead : Nat → Line → Nat → Nat → Nat × Nat
  | 0, _, line, column => (line, column)
  | _, [], line, column => (line, column)
  | count + 1, c :: rest, line, column =>
    if c = '\n' then octetsAhead count rest (line + 1) 0
    else if count + 1 ≤ c.utf8Size then (line, column + (count + 1))
    else octetsAhead (count + 1 - c.utf8Size) rest line (column + c.utf8Size)

def octetCount (text : Line) : Nat := (text.take 4).foldl (fun n c => n + c.utf8Size) 0

def endOfText (cursor : Cursor) : Cursor :=
  cursor.rest.foldl (fun place c => place.past c []) cursor

def readHex (cursor : Cursor) : Read Nat :=
  match cursor.rest with
  | a :: b :: c :: d :: rest =>
    match hexValue? a, hexValue? b, hexValue? c, hexValue? d with
    | some x, some y, some z, some w =>
      .ok (((x * 16 + y) * 16 + z) * 16 + w, ⟨rest, cursor.line, cursor.column + 4⟩)
    | _, _, _, _ =>
      let (line, column) := octetsAhead 4 cursor.rest cursor.line cursor.column
      .error ⟨.invalidEscape, line, column⟩
  | _ =>
    if octetCount cursor.rest < 4 then (endOfText cursor).fault .endOfString
    else
      let (line, column) := octetsAhead 4 cursor.rest cursor.line cursor.column
      .error ⟨.invalidEscape, line, column⟩

/-- The second half of a surrogate pair, written as an escape of its own. -/
def readLowSurrogate (high : Nat) (cursor : Cursor) : Read Char :=
  match cursor.rest with
  | [] => cursor.fault .endOfString
  | '\\' :: rest =>
    let cursor := cursor.past '\\' rest
    match rest with
    | [] => cursor.fault .endOfString
    | 'u' :: rest =>
      match readHex (cursor.past 'u' rest) with
      | .error fault => .error fault
      | .ok (low, cursor) =>
        if low < 0xDC00 ∨ 0xDFFF < low then cursor.fault .loneSurrogate
        else .ok (Char.ofNat ((high - 0xD800) * 0x400 + (low - 0xDC00) + 0x10000), cursor)
    | _ => cursor.faultAhead .endOfHexEscape
  | _ => cursor.faultAhead .endOfHexEscape

def readEscape (cursor : Cursor) : Read Char :=
  match cursor.rest with
  | [] => cursor.fault .endOfString
  | c :: rest =>
    let next := cursor.past c rest
    match c with
    | '"' => .ok ('"', next)
    | '\\' => .ok ('\\', next)
    | '/' => .ok ('/', next)
    | 'b' => .ok ('\x08', next)
    | 'f' => .ok ('\x0c', next)
    | 'n' => .ok ('\n', next)
    | 'r' => .ok ('\r', next)
    | 't' => .ok ('\t', next)
    | 'u' =>
      match readHex next with
      | .error fault => .error fault
      | .ok (n, next) =>
        if 0xDC00 ≤ n ∧ n ≤ 0xDFFF then next.fault .loneSurrogate
        else if n < 0xD800 ∨ 0xDBFF < n then .ok (Char.ofNat n, next)
        else readLowSurrogate n next
    | _ => cursor.faultAhead .invalidEscape

/-- The characters of a string up to its closing quote; `taken` holds those read, latest first. -/
def readChars : Nat → Line → Cursor → Read String
  | 0, _, cursor => cursor.fault .endOfString
  | fuel + 1, taken, cursor =>
    match cursor.rest with
    | [] => cursor.fault .endOfString
    | c :: rest =>
      if c = '"' then .ok (String.ofList taken.reverse, cursor.past c rest)
      else if c = '\\' then
        match readEscape (cursor.past c rest) with
        | .error fault => .error fault
        | .ok (decoded, next) => readChars fuel (decoded :: taken) next
      else if c.toNat < 32 then cursor.faultAhead .controlCharacter
      else readChars fuel (c :: taken) (cursor.past c rest)

/-- A string after its opening quote; `limit` is at least the length of the rest. -/
def readStringBody (limit : Nat) (cursor : Cursor) : Read String := readChars (limit + 1) [] cursor

def isDigit (c : Char) : Bool := '0' ≤ c && c ≤ '9'

def digitValue (c : Char) : Nat := c.toNat - 48

def largestNegative : Nat := 9223372036854775808

def largestWord : Nat := 18446744073709551615

/-- A significand with as many digits as fit a word, and the power of ten it is scaled by. -/
structure Significand where
  value : Nat
  exponent : Int
  /-- Digits no longer fit: later ones only count for the exponent. -/
  full : Bool
  deriving DecidableEq, Repr

def readWhole : Significand → Line → Nat → Significand × Line × Nat
  | s, [], column => (s, [], column)
  | s, c :: rest, column =>
    if isDigit c then
      let next := s.value * 10 + digitValue c
      if s.full ∨ largestWord < next then
        readWhole { s with exponent := s.exponent + 1, full := true } rest (column + 1)
      else readWhole { s with value := next } rest (column + 1)
    else (s, c :: rest, column)

def readFraction : Significand → Line → Nat → Significand × Line × Nat
  | s, [], column => (s, [], column)
  | s, c :: rest, column =>
    if isDigit c then
      let next := s.value * 10 + digitValue c
      if s.full ∨ largestWord < next then readFraction { s with full := true } rest (column + 1)
      else readFraction { s with value := next, exponent := s.exponent - 1 } rest (column + 1)
    else (s, c :: rest, column)

def largestExponent : Nat := 2147483647

/-- Exponent digits; `none` once the exponent no longer fits, with the column reached then. -/
def readExponentDigits : Option Nat → Nat → Line → Nat → Option Nat × Nat × Line × Nat
  | e, stop, [], column => (e, stop, [], column)
  | e, stop, c :: rest, column =>
    if isDigit c then
      match e with
      | none => readExponentDigits none stop rest (column + 1)
      | some n =>
        let next := n * 10 + digitValue c
        if largestExponent < next then readExponentDigits none (column + 1) rest (column + 1)
        else readExponentDigits (some next) (column + 1) rest (column + 1)
    else (e, stop, c :: rest, column)

def powerOfTen (n : Nat) : Float := Decimal.doubleOfNat (Decimal.tenTo n)

/-- A significand times a power of ten, by one multiplication or division in double precision, after
divisions by `10 ^ 308` while the exponent is below that. -/
def scaled? : Nat → Float → Int → Option Float
  | 0, x, _ => some x
  | steps + 1, x, e =>
    if e.natAbs ≤ 308 then
      if 0 ≤ e then
        let y := x * powerOfTen e.toNat
        if y.isInf then none else some y
      else some (x / powerOfTen (-e).toNat)
    else if x == 0 then some x
    else if 0 ≤ e then none
    else scaled? steps (x / powerOfTen 308) (e + 308)

def signed (negative : Bool) (x : Float) : Number := .double (if negative then -x else x)

def finishDouble (negative : Bool) (significand : Nat) (exponent : Int) (cursor : Cursor) :
    Read Number :=
  match scaled? 8 (Decimal.doubleOfNat significand) exponent with
  | some x => .ok (signed negative x, cursor)
  | none => cursor.fault .numberOutOfRange

def readExponent (negative : Bool) (s : Significand) (cursor : Cursor) : Read Number :=
  let (below, cursor) :=
    match cursor.rest with
    | '+' :: rest => (false, cursor.past '+' rest)
    | '-' :: rest => (true, cursor.past '-' rest)
    | _ => (false, cursor)
  match cursor.rest with
  | [] => cursor.fault .endOfValue
  | c :: _ =>
    if isDigit c then
      let (e, stop, rest, column) := readExponentDigits (some 0) cursor.column cursor.rest cursor.column
      let after : Cursor := ⟨rest, cursor.line, column⟩
      match e with
      | none =>
        if s.value ≠ 0 ∧ ¬ below then .error ⟨.numberOutOfRange, cursor.line, stop⟩
        else .ok (signed negative 0, after)
      | some n =>
        finishDouble negative s.value (if below then s.exponent - n else s.exponent + n) after
    else cursor.faultAhead .invalidNumber

def isExponentMark (c : Char) : Bool := c == 'e' || c == 'E'

def readAfterWhole (negative : Bool) (s : Significand) (cursor : Cursor) : Read Number :=
  match cursor.rest with
  | '.' :: rest =>
    let cursor := cursor.past '.' rest
    let (t, rest, column) := readFraction { s with full := false } cursor.rest cursor.column
    let after : Cursor := ⟨rest, cursor.line, column⟩
    if column = cursor.column then
      match rest with
      | [] => after.faultAhead .endOfValue
      | _ => after.faultAhead .invalidNumber
    else
      match rest with
      | c :: rest =>
        if isExponentMark c then readExponent negative t (after.past c rest)
        else finishDouble negative t.value t.exponent after
      | [] => finishDouble negative t.value t.exponent after
  | c :: rest =>
    if isExponentMark c then readExponent negative s (cursor.past c rest)
    else plain
  | [] => plain
where
  plain : Read Number :=
    if s.full then finishDouble negative s.value s.exponent cursor
    else if negative then
      if s.value = 0 ∨ largestNegative < s.value then
        .ok (signed true (Decimal.doubleOfNat s.value), cursor)
      else .ok (.int (-s.value), cursor)
    else .ok (.int s.value, cursor)

def readNumber (negative : Bool) (cursor : Cursor) : Read Number :=
  match cursor.rest with
  | [] => cursor.fault .endOfValue
  | '0' :: rest =>
    let next := cursor.past '0' rest
    match rest with
    | d :: _ =>
      if isDigit d then next.faultAhead .invalidNumber
      else readAfterWhole negative ⟨0, 0, false⟩ next
    | [] => readAfterWhole negative ⟨0, 0, false⟩ next
  | c :: _ =>
    if isDigit c then
      let (s, rest, column) := readWhole ⟨0, 0, false⟩ cursor.rest cursor.column
      readAfterWhole negative s ⟨rest, cursor.line, column⟩
    else cursor.faultAhead .invalidNumber

def readElements (element : Cursor → Read Json) : Nat → List Json → Cursor → Read Json
  | 0, _, cursor => cursor.fault .endOfList
  | fuel + 1, taken, cursor =>
    let cursor := cursor.skipBlanks
    match cursor.rest with
    | [] => cursor.faultAhead .endOfList
    | c :: rest =>
      if c = ']' then .ok (.array taken.reverse, cursor.past c rest)
      else
        let first? : Except Fault Cursor :=
          if taken.isEmpty then .ok cursor
          else if c = ',' then
            let next := (cursor.past c rest).skipBlanks
            if next.rest.head? = some ']' then next.faultAhead .trailingComma else .ok next
          else cursor.faultAhead .expectedListCommaOrEnd
        match first? with
        | .error fault => .error fault
        | .ok next =>
          match element next with
          | .error fault => .error fault
          | .ok (value, after) => readElements element fuel (value :: taken) after

def readColon (cursor : Cursor) : Except Fault Cursor :=
  let cursor := cursor.skipBlanks
  match cursor.rest with
  | [] => cursor.faultAhead .endOfObject
  | c :: rest => if c = ':' then .ok (cursor.past c rest) else cursor.faultAhead .expectedColon

def readKeyStart (first : Bool) (c : Char) (rest : Line) (cursor : Cursor) :
    Except Fault Cursor :=
  if first then
    if c = '"' then .ok (cursor.past c rest) else cursor.faultAhead .keyMustBeString
  else if c = ',' then
    let next := (cursor.past c rest).skipBlanks
    match next.rest with
    | [] => next.faultAhead .endOfValue
    | '"' :: rest => .ok (next.past '"' rest)
    | d :: _ =>
      if d = Char.ofNat 0x7D then next.faultAhead .trailingComma
      else next.faultAhead .keyMustBeString
  else cursor.faultAhead .expectedObjectCommaOrEnd

def readFields (limit : Nat) (element : Cursor → Read Json) :
    Nat → List (String × Json) → Cursor → Read Json
  | 0, _, cursor => cursor.fault .endOfObject
  | fuel + 1, taken, cursor =>
    let cursor := cursor.skipBlanks
    match cursor.rest with
    | [] => cursor.faultAhead .endOfObject
    | c :: rest =>
      if c = Char.ofNat 0x7D then .ok (.object taken.reverse, cursor.past c rest)
      else
        match readKeyStart taken.isEmpty c rest cursor with
        | .error fault => .error fault
        | .ok next =>
          match readStringBody limit next with
          | .error fault => .error fault
          | .ok (key, next) =>
            match readColon next with
            | .error fault => .error fault
            | .ok next =>
              match element next with
              | .error fault => .error fault
              | .ok (value, after) => readFields limit element fuel ((key, value) :: taken) after

/-- A value with at most `depth` levels of arrays and objects; `limit` is at least the length of the
rest, and so bounds the rounds of every loop. -/
def readValue (limit : Nat) : Nat → Cursor → Read Json
  | depth, cursor =>
    let cursor := cursor.skipBlanks
    match cursor.rest with
    | [] => cursor.faultAhead .endOfValue
    | c :: rest =>
      let next := cursor.past c rest
      if c = 'n' then readLetters .null "ull".toList next
      else if c = 't' then readLetters (.bool true) "rue".toList next
      else if c = 'f' then readLetters (.bool false) "alse".toList next
      else if c = '"' then (readStringBody limit next).map fun (s, after) => (.string s, after)
      else if c = '-' then (readNumber true next).map fun (n, after) => (.number n, after)
      else if isDigit c then (readNumber false cursor).map fun (n, after) => (.number n, after)
      else if c = '[' then
        match depth with
        | 0 => cursor.faultAhead .tooDeep
        | depth + 1 => readElements (readValue limit depth) (limit + 1) [] next
      else if c = Char.ofNat 0x7B then
        match depth with
        | 0 => cursor.faultAhead .tooDeep
        | depth + 1 => readFields limit (readValue limit depth) (limit + 1) [] next
      else cursor.faultAhead .expectedValue

def deepest : Nat := 127

def read (text : Line) : Except Fault Json :=
  match readValue text.length deepest (Cursor.start text) with
  | .error fault => .error fault
  | .ok (value, after) =>
    let after := after.skipBlanks
    if after.rest.isEmpty then .ok value else after.faultAhead .trailingCharacters

def ofText (text : String) : Except Fault Json := read text.toList

end CodeAtlas.Json
