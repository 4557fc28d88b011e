import CodeAtlas.Item.Basic

/-!
Similarity of vectors in single precision. Sums are taken from left to right and begin at negative
zero, which changes no addend.
-/
namespace CodeAtlas.Embedding

def negativeZero : Float32 := Float32.ofBits 0x80000000

def sum (xs : List Float32) : Float32 := xs.foldl (· + ·) negativeZero

def dot (a b : Embedding) : Float32 := sum (List.zipWith (· * ·) a b)

def norm (v : Embedding) : Float32 := (sum (v.map fun x => x * x)).sqrt

/-- Zero when one of the vectors has no length. -/
def cosine (a b : Embedding) : Float32 :=
  if norm a == 0 || norm b == 0 then 0 else dot a b / (norm a * norm b)

/-- Scales a vector to length one; a vector without a length stays as it is. -/
def normalize (v : Embedding) : Embedding := if 0 < norm v then v.map (· / norm v) else v

end CodeAtlas.Embedding
