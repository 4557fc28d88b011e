import CodeAtlas.Json.Value

/-!
The two written forms of a JSON value: compact, and indented by two spaces.
-/
namespace CodeAtlas.Json

def hexDigit (n : Nat) : Char := if n < 10 then Char.ofNat (48 + n) else Char.ofNat (87 + n)

def escapeChar (c : Char) : Line :=
  if c = '"' then ['\\', '"']
  else if c = '\\' then ['\\', '\\']
  else if c = '\n' then ['\\', 'n']
  else if c = '\r' then ['\\', 'r']
  else if c = '\t' then ['\\', 't']
  else if c = '\x08' then ['\\', 'b']
  else if c = '\x0c' then ['\\', 'f']
  else if c.toNat < 32 then
    ['\\', 'u', '0', '0', hexDigit (c.toNat / 16), hexDigit (c.toNat % 16)]
  else [c]

def writeString (s : String) : Line := '"' :: s.toList.flatMap escapeChar ++ ['"']

def writeInt (n : Int) : Line :=
  if n < 0 then '-' :: Decimal.digitChars (-n).toNat else Decimal.digitChars n.toNat

/-- Infinities and values that are not numbers are written as `null`. -/
def writeNumber : Number → Line
  | .int n => writeInt n
  | .double x => (Decimal.doubleText? x).getD "null".toList
  | .single x => (Decimal.singleText? x).getD "null".toList

/-- Where blanks stand in a written value: before what stands at a depth, and after a colon. -/
structure Spacing where
  gap : Nat → Line
  afterColon : Line

def newLine (depth : Nat) : Line := '\n' :: List.replicate (2 * depth) ' '

def compactSpacing : Spacing := ⟨fun _ => [], []⟩

def prettySpacing : Spacing := ⟨newLine, [' ']⟩

mutual

/-- A value at a depth. Nothing stands between the brackets of an empty array or object. -/
def write (s : Spacing) (depth : Nat) : Json → Line
  | .null => "null".toList
  | .bool b => if b then "true".toList else "false".toList
  | .number n => writeNumber n
  | .string text => writeString text
  | .array [] => ['[', ']']
  | .array (x :: xs) =>
    '[' :: s.gap (depth + 1) ++ write s (depth + 1) x ++ writeMore s (depth + 1) xs ++
      s.gap depth ++ [']']
  | .object [] => [Char.ofNat 0x7B, Char.ofNat 0x7D]
  | .object ((k, x) :: xs) =>
    Char.ofNat 0x7B :: s.gap (depth + 1) ++ writeString k ++ ':' :: s.afterColon ++
      write s (depth + 1) x ++ writeMoreFields s (depth + 1) xs ++ s.gap depth ++
      [Char.ofNat 0x7D]

def writeMore (s : Spacing) (depth : Nat) : List Json → Line
  | [] => []
  | x :: xs => ',' :: s.gap depth ++ write s depth x ++ writeMore s depth xs

def writeMoreFields (s : Spacing) (depth : Nat) : List (String × Json) → Line
  | [] => []
  | (k, x) :: xs =>
    ',' :: s.gap depth ++ writeString k ++ ':' :: s.afterColon ++ write s depth x ++
      writeMoreFields s depth xs

end

def toCompact (value : Json) : String := String.ofList (write compactSpacing 0 value)

def toPretty (value : Json) : String := String.ofList (write prettySpacing 0 value)

end CodeAtlas.Json
