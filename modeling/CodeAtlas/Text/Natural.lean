import CodeAtlas.Text.Lines

/-!
Natural numbers written in decimal.
-/
namespace CodeAtlas.Text

def isDecimalDigit (c : Char) : Bool := '0' ≤ c && c ≤ '9'

def decimalValue (digits : Line) : Nat := digits.foldl (fun n c => n * 10 + (c.toNat - 48)) 0

def wordBound : Nat := 18446744073709551616

def halfWordBound : Nat := 4294967296

/-- A number below a bound: digits, with a plus sign in front or none. -/
def natural? (bound : Nat) (s : Line) : Option Nat :=
  let digits := (stripPrefix? ['+'] s).getD s
  if digits.isEmpty || !digits.all isDecimalDigit then none
  else if decimalValue digits < bound then some (decimalValue digits)
  else none

end CodeAtlas.Text
