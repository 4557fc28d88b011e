/-!
Binary floating-point formats as exact arithmetic: a finite value is a natural number times a
power of two, and a quotient of natural numbers is rounded to the nearest value of a format, a
half going to the even neighbour.
-/
namespace CodeAtlas.Decimal

def twoTo (n : Nat) : Nat := Nat.pow 2 n

def tenTo (n : Nat) : Nat := Nat.pow 10 n

/-- A format with `precision` bits in a mantissa and finite values below two to `ceiling`. -/
structure Format where
  precision : Nat
  leastExponent : Int
  ceiling : Int
  deriving DecidableEq, Repr

def single : Format := ⟨24, -149, 128⟩

def double : Format := ⟨53, -1074, 1024⟩

/-- A magnitude: `finite m q` stands for `m * 2 ^ q`. -/
inductive Magnitude where
  | finite (mantissa : Nat) (exponent : Int)
  | infinite
  | notANumber
  deriving DecidableEq, Repr

namespace Format

def exponentBits (f : Format) : Nat := (Int.toNat f.ceiling).log2 + 1

def signBit (f : Format) : Nat := f.precision - 1 + f.exponentBits

def isNegative (f : Format) (bits : Nat) : Bool := bits >>> f.signBit % 2 == 1

def magnitude (f : Format) (bits : Nat) : Magnitude :=
  let fraction := bits % twoTo (f.precision - 1)
  let field := (bits >>> (f.precision - 1)) % twoTo f.exponentBits
  if field = twoTo f.exponentBits - 1 then
    if fraction = 0 then .infinite else .notANumber
  else if field = 0 then .finite fraction f.leastExponent
  else .finite (fraction + twoTo (f.precision - 1)) (f.leastExponent + (field - 1 : Nat))

/-- The bits of a magnitude without a sign; finite ones have mantissa and exponent in range. -/
def encode (f : Format) : Magnitude → Nat
  | .infinite => (twoTo f.exponentBits - 1) <<< (f.precision - 1)
  | .notANumber =>
    (twoTo f.exponentBits - 1) <<< (f.precision - 1) + twoTo (f.precision - 2)
  | .finite m q =>
    if m < twoTo (f.precision - 1) then m
    else ((q - f.leastExponent).toNat + 1) <<< (f.precision - 1) + (m - twoTo (f.precision - 1))

def withSign (f : Format) (negative : Bool) (bits : Nat) : Nat :=
  if negative then bits + twoTo f.signBit else bits

end Format

/-- Rounds a quotient to a natural number, a half to the even neighbour. -/
def roundDiv (numerator denominator : Nat) : Nat :=
  let quotient := numerator / denominator
  let twice := 2 * (numerator % denominator)
  if twice < denominator then quotient
  else if denominator < twice then quotient + 1
  else if quotient % 2 = 0 then quotient else quotient + 1

def scaleDown (numerator denominator : Nat) (exponent : Int) : Nat × Nat :=
  (numerator * twoTo (-exponent).toNat, denominator * twoTo exponent.toNat)

/-- The exponent at which a positive quotient has a mantissa of full precision, but no less than the
format's least exponent. -/
def exponentFor (f : Format) (numerator denominator : Nat) : Int :=
  let guess : Int := (numerator.log2 : Int) - denominator.log2 - f.precision
  let fits (q : Int) : Bool :=
    let (n, d) := scaleDown numerator denominator q
    n < d * twoTo f.precision
  let q := if fits guess then guess else guess + 1
  max q f.leastExponent

def nearest (f : Format) (numerator denominator : Nat) : Magnitude :=
  if numerator = 0 then .finite 0 f.leastExponent
  else
    let q := exponentFor f numerator denominator
    let (n, d) := scaleDown numerator denominator q
    let m := roundDiv n d
    let (m, q) := if m = twoTo f.precision then (twoTo (f.precision - 1), q + 1) else (m, q)
    if q + f.precision > f.ceiling then .infinite else .finite m q

/-- Narrows or widens the bits of one format to another, rounding to nearest. -/
def convert (source target : Format) (bits : Nat) : Nat :=
  let sign := source.isNegative bits
  target.withSign sign <| target.encode <|
    match source.magnitude bits with
    | .finite m q => nearest target (m * twoTo q.toNat) (twoTo (-q).toNat)
    | .infinite => .infinite
    | .notANumber => .notANumber

def toSingle (x : Float) : Float32 :=
  Float32.ofBits (UInt32.ofNat (convert double single x.toBits.toNat))

def singleOfNat (n : Nat) : Float32 :=
  Float32.ofBits (UInt32.ofNat (single.encode (nearest single n 1)))

def doubleOfNat (n : Nat) : Float :=
  Float.ofBits (UInt64.ofNat (double.encode (nearest double n 1)))

end CodeAtlas.Decimal
