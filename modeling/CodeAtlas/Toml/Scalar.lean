import CodeAtlas.Json.Reader
import CodeAtlas.Toml.Value

/-!
Scalars of configuration files: words, which are numbers, truth values or points in time, and the
four kinds of strings.
-/
namespace CodeAtlas.Toml

def isSpace (c : Char) : Bool := c == ' ' || c == '\t'

/-- Control characters other than the tab may stand nowhere. -/
def isControl (c : Char) : Bool := (c.toNat < 32 && c != '\t') || c.toNat == 127

def digitGroups? (isDigit : Char → Bool) (s : Line) : Option Line :=
  let groups := Text.splitOn '_' s
  if groups.all fun g => !g.isEmpty && g.all isDigit then some groups.flatten else none

def valueIn (base : Nat) (digits : Line) : Nat :=
  digits.foldl (fun n c => n * base + (Json.hexValue? c).getD 0) 0

def isHexDigit (c : Char) : Bool := (Json.hexValue? c).isSome

def natural? (isDigit : Char → Bool) (base : Nat) (s : Line) : Option Nat :=
  (digitGroups? isDigit s).map (valueIn base)

def decimal? (s : Line) : Option Nat :=
  match s with
  | '0' :: _ :: _ => none
  | _ => natural? Json.isDigit 10 s

def signed? (s : Line) : Option Int :=
  match s with
  | '-' :: rest => (decimal? rest).map fun n => -(n : Int)
  | '+' :: rest => (decimal? rest).map fun n => (n : Int)
  | _ => (decimal? s).map fun n => (n : Int)

def integer? (s : Line) : Option Int :=
  match s with
  | '0' :: 'x' :: digits => (natural? isHexDigit 16 digits).map fun n => (n : Int)
  | '0' :: 'o' :: digits => (natural? (fun c => '0' ≤ c && c ≤ '7') 8 digits).map fun n => (n : Int)
  | '0' :: 'b' :: digits => (natural? (fun c => c == '0' || c == '1') 2 digits).map fun n => (n : Int)
  | _ => signed? s

def isExponent (s : Line) : Bool :=
  match s with
  | '-' :: digits | '+' :: digits => (digitGroups? Json.isDigit digits).isSome
  | digits => (digitGroups? Json.isDigit digits).isSome

def isMantissa (s : Line) : Bool :=
  match Text.splitOnce? ['.'] s with
  | some (whole, fraction) => (signed? whole).isSome && (digitGroups? Json.isDigit fraction).isSome
  | none => (signed? s).isSome

def isFloat (s : Line) : Bool :=
  if ["inf", "+inf", "-inf", "nan", "+nan", "-nan"].contains (String.ofList s) then true
  else
    match s.span fun c => !Json.isExponentMark c with
    | (mantissa, _ :: exponent) => isMantissa mantissa && isExponent exponent
    | (mantissa, []) => mantissa.contains '.' && isMantissa mantissa

def isField (width low high : Nat) (s : Line) : Bool :=
  s.length == width && s.all Json.isDigit && low ≤ valueIn 10 s && valueIn 10 s ≤ high

def isLeapYear (y : Nat) : Bool := (y % 4 == 0 && y % 100 != 0) || y % 400 == 0

def daysIn (year month : Nat) : Nat :=
  if month = 2 then (if isLeapYear year then 29 else 28)
  else if month ∈ [4, 6, 9, 11] then 30
  else 31

def isDate (s : Line) : Bool :=
  match Text.splitOn '-' s with
  | [year, month, day] =>
    isField 4 0 9999 year && isField 2 1 12 month &&
      isField 2 1 (daysIn (valueIn 10 year) (valueIn 10 month)) day
  | _ => false

def isSecond (s : Line) : Bool :=
  match Text.splitOnce? ['.'] s with
  | some (whole, fraction) => isField 2 0 60 whole && !fraction.isEmpty && fraction.all Json.isDigit
  | none => isField 2 0 60 s

def isClock (s : Line) : Bool :=
  match Text.splitOn ':' s with
  | [hour, minute] => isField 2 0 23 hour && isField 2 0 59 minute
  | [hour, minute, second] => isField 2 0 23 hour && isField 2 0 59 minute && isSecond second
  | _ => false

def isZonedClock (s : Line) : Bool :=
  match s.span fun c => c != 'Z' && c != 'z' && c != '+' && c != '-' with
  | (clock, []) => isClock clock
  | (clock, ['Z']) | (clock, ['z']) => isClock clock
  | (clock, _ :: offset) =>
    isClock clock &&
      match Text.splitOn ':' offset with
      | [hour, minute] => isField 2 0 23 hour && isField 2 0 59 minute
      | _ => false

def isMoment (s : Line) : Bool :=
  isDate s || isClock s ||
    (isDate (s.take 10) &&
      match s.drop 10 with
      | 'T' :: clock | 't' :: clock | ' ' :: clock => isZonedClock clock
      | _ => false)

def isWordChar (c : Char) : Bool :=
  c.isAlphanum || c == '_' || c == '+' || c == '-' || c == '.' || c == ':'

/-- A word; after a date the time of day may follow behind a blank. -/
def takeWord (s : Line) : Line × Line :=
  match s.span isWordChar with
  | (word, ' ' :: c :: rest) =>
    if isDate word && Json.isDigit c then
      let (clock, left) := (c :: rest).span isWordChar
      (word ++ ' ' :: clock, left)
    else (word, ' ' :: c :: rest)
  | split => split

def readWord (s : Line) : Option (Toml × Line) :=
  let (word, rest) := takeWord s
  let text := String.ofList word
  if text = "true" then some (.bool true, rest)
  else if text = "false" then some (.bool false, rest)
  else
    match integer? word with
    | some n => some (.integer n, rest)
    | none =>
      if isFloat word then some (.float text, rest)
      else if isMoment word then some (.moment text, rest)
      else none

def readScalarValue (width : Nat) (s : Line) : Option (Char × Line) :=
  let digits := s.take width
  let n := valueIn 16 digits
  if digits.length = width ∧ digits.all isHexDigit ∧ n.isValidChar then
    some (Char.ofNat n, s.drop width)
  else none

def readEscape : Line → Option (Char × Line)
  | 'b' :: rest => some (Char.ofNat 8, rest)
  | 't' :: rest => some ('\t', rest)
  | 'n' :: rest => some ('\n', rest)
  | 'f' :: rest => some (Char.ofNat 12, rest)
  | 'r' :: rest => some ('\r', rest)
  | 'e' :: rest => some (Char.ofNat 27, rest)
  | '"' :: rest => some ('"', rest)
  | '\\' :: rest => some ('\\', rest)
  | 'x' :: rest => readScalarValue 2 rest
  | 'u' :: rest => readScalarValue 4 rest
  | 'U' :: rest => readScalarValue 8 rest
  | _ => none

/-- The rest of a string on one line. Every round takes a character, so as many rounds as there are
characters are enough. -/
def readBasic : Nat → Line → Option (Line × Line)
  | n + 1, c :: rest =>
    if c = '"' then some ([], rest)
    else if c = '\\' then do
      let (escaped, left) ← readEscape rest
      let (text, after) ← readBasic n left
      some (escaped :: text, after)
    else if isControl c then none
    else do
      let (text, after) ← readBasic n rest
      some (c :: text, after)
  | _, _ => none

def readLiteral (s : Line) : Option (Line × Line) :=
  match s.span fun c => c != '\'' && !isControl c with
  | (text, '\'' :: rest) => some (text, rest)
  | _ => none

def skipBlankLines : Line → Line
  | '\r' :: '\n' :: rest => skipBlankLines rest
  | c :: rest => if isSpace c || c == '\n' then skipBlankLines rest else c :: rest
  | [] => []

def continueLine? (s : Line) : Option Line :=
  let left := s.dropWhile isSpace
  match left with
  | '\n' :: _ | '\r' :: '\n' :: _ => some (skipBlankLines left)
  | _ => none

/-- Quotes inside a string on many lines: three end it, and up to two before those belong to it. -/
def readQuotes (quote : Char) (s : Line) : Option Line × Line :=
  let count := (s.takeWhile (· == quote)).length
  if 3 ≤ count then (some (List.replicate (min (count - 3) 2) quote), s.drop (min count 5))
  else (none, s)

/-- The rest of a string on many lines; `escapes` says whether a backslash means something. -/
def readLong (quote : Char) (escapes : Bool) : Nat → Line → Option (Line × Line)
  | n + 1, c :: rest =>
    if c = quote then
      match readQuotes quote (c :: rest) with
      | (some quotes, after) => some (quotes, after)
      | (none, _) => (readLong quote escapes n rest).map fun (text, after) => (c :: text, after)
    else if c = '\\' ∧ escapes then
      match continueLine? rest with
      | some left => readLong quote escapes n left
      | none => do
        let (escaped, left) ← readEscape rest
        let (text, after) ← readLong quote escapes n left
        some (escaped :: text, after)
    else if c = '\r' ∧ rest.head? ≠ some '\n' then none
    else if isControl c ∧ c ≠ '\n' ∧ c ≠ '\r' then none
    else (readLong quote escapes n rest).map fun (text, after) => (c :: text, after)
  | _, _ => none

def dropFirstLineEnd : Line → Line
  | '\n' :: rest => rest
  | '\r' :: '\n' :: rest => rest
  | s => s

def readString (s : Line) : Option (String × Line) :=
  let text : Option (Line × Line) :=
    match s with
    | '"' :: '"' :: '"' :: rest => readLong '"' true rest.length (dropFirstLineEnd rest)
    | '\'' :: '\'' :: '\'' :: rest => readLong '\'' false rest.length (dropFirstLineEnd rest)
    | '"' :: rest => readBasic rest.length rest
    | '\'' :: rest => readLiteral rest
    | _ => none
  text.map fun (chars, rest) => (String.ofList chars, rest)

end CodeAtlas.Toml
