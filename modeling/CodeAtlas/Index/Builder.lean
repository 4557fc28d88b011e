import CodeAtlas.Fault
import CodeAtlas.Index.Flat

/-!
Building a flat index. A builder is started with a dimension, is given vectors without gaps and
may be saved as often as wanted; a step that fails leaves the builder as it was.
-/
namespace CodeAtlas

/-- A builder without a dimension has not been started. -/
structure IndexBuilder where
  dimension : Option Nat := none
  vectors : List Embedding := []
  normalized : Bool := false
  deriving DecidableEq, Repr

namespace IndexBuilder

def start (dimension : Nat) : Except ServiceFault IndexBuilder :=
  if dimension = 0 then .error (.index "dimension must be non-zero")
  else .ok { dimension := some dimension }

/-- Adds vectors whose first ordinal is `first`. -/
def add (b : IndexBuilder) (first : Nat) (vectors : List Embedding) :
    Except ServiceFault IndexBuilder :=
  match b.dimension with
  | none => .error (.index "index not initialized")
  | some dimension =>
    if first = b.vectors.length then
      match FlatIndex.misfit? dimension vectors with
      | some length => .error (.dimensionMismatch dimension length)
      | none => .ok { b with vectors := b.vectors ++ vectors, normalized := false }
    else
      .error (.index ("non-contiguous insert at " ++ toString first ++ ", index holds " ++
        toString b.vectors.length))

def optimize (b : IndexBuilder) : IndexBuilder :=
  { b with vectors := b.vectors.map Embedding.normalize, normalized := true }

def index (b : IndexBuilder) : Except ServiceFault FlatIndex :=
  match b.dimension with
  | none => .error (.index "index not initialized")
  | some dimension => .ok ⟨dimension, b.normalized, b.vectors⟩

/-- Writes the index to a file, in a directory that is made if it is missing. -/
def save (b : IndexBuilder) (path : Path) (files : FileTree) :
    Except ServiceFault Unit × FileTree :=
  match b.index with
  | .error fault => (.error fault, files)
  | .ok index =>
    match files.makeParent path with
    | .error fault => (.error (.file fault), files)
    | .ok made =>
      match made.write path index.toText.toUTF8 with
      | .error fault => (.error (.file fault), made)
      | .ok written => (.ok (), written)

end IndexBuilder

/-- Reads a text file's content; octets that are not text count as a bad payload. -/
def readPayload {α : Type} (files : FileTree) (path : Path)
    (decode : String → Except Json.Refusal α) : Except ServiceFault α :=
  match files.read path with
  | .error fault => .error (.file fault)
  | .ok content =>
    match String.fromUTF8? content with
    | none => .error (.payload .shape)
    | some text =>
      match decode text with
      | .ok value => .ok value
      | .error refusal => .error (.payload refusal)

namespace FlatIndex

/-- Reads a saved index, all of whose vectors must have its dimension. -/
def load (files : FileTree) (path : Path) : Except ServiceFault FlatIndex :=
  match readPayload files path ofText with
  | .error fault => .error fault
  | .ok index =>
    match misfit? index.dimension index.vectors with
    | some length => .error (.dimensionMismatch index.dimension length)
    | none => .ok index

def search (index : FlatIndex) (query : Embedding) (k : Nat)
    (nans : Nat → NaNWord := fun _ => negativeNaN) : Except ServiceFault (List Hit) :=
  match index.search? query k nans with
  | some hits => .ok hits
  | none => .error (.dimensionMismatch index.dimension query.length)

end FlatIndex

def loadEntries (files : FileTree) (path : Path) : Except ServiceFault (List IndexEntry) :=
  readPayload files path IndexEntry.ofTableText

end CodeAtlas
