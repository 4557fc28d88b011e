import CodeAtlas.Decimal.Shortest
import CodeAtlas.Text.Lines

/-!
How decimals are written. Numbers in JSON have the fewest digits that read back: without an
exponent in the middle of the range, with a sign in front of a positive exponent outside it, and
always with a fraction or an exponent. Scores have four places.
-/
namespace CodeAtlas.Decimal

/-- Positional from `10 ^ low` on and below `10 ^ high`. -/
structure Layout where
  low : Int
  high : Int
  deriving DecidableEq, Repr

def singleLayout : Layout := ⟨-6, 13⟩

def doubleLayout : Layout := ⟨-5, 16⟩

def digitChars (n : Nat) : Line := Nat.toDigits 10 n

def zeros (n : Nat) : Line := List.replicate n '0'

def exponentText (e : Int) : Line :=
  if e < 0 then 'e' :: '-' :: digitChars (-e).toNat else 'e' :: '+' :: digitChars e.toNat

/-- Digits with a decimal point after `place` of them; `place` may lie outside the digits. -/
def positional (digits : Line) (place : Int) : Line :=
  if place ≤ 0 then ['0', '.'] ++ zeros (-place).toNat ++ digits
  else if place < digits.length then
    digits.take place.toNat ++ ['.'] ++ digits.drop place.toNat
  else digits ++ zeros (place - digits.length).toNat ++ ['.', '0']

def Layout.write (layout : Layout) (x : Scaled) : Line :=
  if x.digits = 0 then ['0', '.', '0']
  else
    let digits := digitChars x.digits
    let place : Int := digits.length + x.exponent
    if layout.low < place && place ≤ layout.high then positional digits place
    else
      match digits with
      | [] => []
      | [d] => d :: exponentText (place - 1)
      | d :: rest => d :: '.' :: rest ++ exponentText (place - 1)

/-- The text of a value given by its bits; values that are not finite have none. -/
def text? (f : Format) (layout : Layout) (bits : Nat) : Option Line :=
  match f.magnitude bits with
  | .finite m q =>
    let text := layout.write (shortest f m q)
    some (if f.isNegative bits then '-' :: text else text)
  | _ => none

def singleText? (x : Float32) : Option Line := text? single singleLayout x.toBits.toNat

def doubleText? (x : Float) : Option Line := text? double doubleLayout x.toBits.toNat

/-- Exactly `places` digits after the point; a half in the last place goes to the even neighbour. -/
def fixedText (places : Nat) (x : Float32) : Line :=
  let bits := x.toBits.toNat
  let sign : Line := if single.isNegative bits then ['-'] else []
  match single.magnitude bits with
  | .notANumber => ['N', 'a', 'N']
  | .infinite => sign ++ ['i', 'n', 'f']
  | .finite m q =>
    let scaled := roundDiv (m * twoTo q.toNat * tenTo places) (twoTo (-q).toNat)
    let digits := digitChars scaled
    let padded := zeros (places + 1 - digits.length) ++ digits
    sign ++ padded.take (padded.length - places) ++ ['.'] ++ padded.drop (padded.length - places)

end CodeAtlas.Decimal
