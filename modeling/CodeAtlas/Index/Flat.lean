import CodeAtlas.Index.Entry
import CodeAtlas.Index.Similarity

/-!
Flat indexes: vectors in a list, searched by comparing the query with every one of them, and saved
as one JSON object.
-/
namespace CodeAtlas

structure FlatIndex where
  dimension : Nat
  normalized : Bool
  vectors : List Embedding
  deriving DecidableEq, Repr

structure Hit where
  ordinal : Nat
  score : Float32
  deriving DecidableEq, Repr

/-- Words of single precision that stand for no number. -/
abbrev NaNWord := {word : UInt32 // 0x7F800000 < word.toNat % 0x80000000}

/-- The word that many machines leave behind an operation on infinities. -/
def negativeNaN : NaNWord := ⟨0xFFC00000, by decide⟩

/-- Places words of single precision in one line, by sign and magnitude. -/
def wordRank (w : UInt32) : Int :=
  if w.toNat < 0x80000000 then w.toNat else 0x7FFFFFFF - (w.toNat : Int)

namespace Hit

/-- The word of a score. Which word stands for one that is not a number depends on the machine and on
the words of the vectors, so it is given for each ordinal. -/
def word (nans : Nat → NaNWord) (h : Hit) : UInt32 :=
  if h.score.isNaN then (nans h.ordinal).val else h.score.toBits

/-- Better scores come first, of equal scores the lower ordinal. -/
def precedes (nans : Nat → NaNWord) (a b : Hit) : Bool :=
  wordRank (b.word nans) < wordRank (a.word nans) ||
    (wordRank (a.word nans) == wordRank (b.word nans) && a.ordinal ≤ b.ordinal)

end Hit

namespace FlatIndex

def hits (index : FlatIndex) (query : Embedding) : List Hit :=
  index.vectors.zipIdx.map fun (v, ordinal) => ⟨ordinal, Embedding.cosine query v⟩

def ranked (index : FlatIndex) (query : Embedding) (nans : Nat → NaNWord) : List Hit :=
  (index.hits query).mergeSort (Hit.precedes nans)

/-- The best `k` hits; none for a query of another length than the index's dimension. -/
def search? (index : FlatIndex) (query : Embedding) (k : Nat) (nans : Nat → NaNWord) :
    Option (List Hit) :=
  if query.length = index.dimension then some ((index.ranked query nans).take k) else none

def toJson (index : FlatIndex) : Json :=
  .object [("dimension", .ofNat index.dimension), ("normalized", .bool index.normalized),
    ("vectors", .array (index.vectors.map Embedding.toJson))]

def toText (index : FlatIndex) : String := Json.toCompact index.toJson

def ofJson? (value : Json) : Option FlatIndex :=
  match value.record? ["dimension", "normalized", "vectors"] with
  | some [dimension, normalized, vectors] => do
    let dimension ← Json.required? Json.nat? dimension
    let normalized ← Json.required? Json.bool? normalized
    let vectors ← Json.required? (Json.listOf? Embedding.ofJson?) vectors
    some ⟨dimension, normalized, vectors⟩
  | _ => none

def ofText (text : String) : Except Json.Refusal FlatIndex := Json.decodeText ofJson? text

/-- The length of the first vector that does not have the index's dimension. -/
def misfit? (dimension : Nat) (vectors : List Embedding) : Option Nat :=
  (vectors.find? fun v => v.length != dimension).map List.length

end FlatIndex
end CodeAtlas
