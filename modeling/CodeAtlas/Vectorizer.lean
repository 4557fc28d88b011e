import CodeAtlas.Fault
import CodeAtlas.Index.Flat

/-!
Turning texts into vectors of one dimension. The dimension is configured, or found by embedding a
probe text the first time it is needed; once it is fixed it stays.
-/
namespace CodeAtlas

structure Vectorizer (World : Type) where
  provider : Provider World
  configured : Option Nat

structure VectorizerState (World : Type) where
  dimension : Option Nat
  world : World

namespace Vectorizer

variable {World : Type}

def probeText : String := "dimension probe"

def probedDimension (provider : String) (vectors : List Embedding) : Except ServiceFault Nat :=
  match vectors with
  | (_ :: rest) :: _ => .ok (rest.length + 1)
  | _ => .error (.other (provider ++ " returned an empty probe embedding"))

def probe (v : Vectorizer World) (world : World) : Except ServiceFault Nat × World :=
  if v.provider.embeds then
    match v.configured with
    | some dimension => (.ok dimension, world)
    | none =>
      match v.provider.embed [probeText] world with
      | (.ok vectors, after) => (probedDimension v.provider.name vectors, after)
      | (.error fault, after) => (.error (.provider fault), after)
  else (.error (.provider (.embeddingUnsupported v.provider.name)), world)

/-- Fixes the dimension; a dimension that is fixed is only reported. -/
def start (v : Vectorizer World) (state : VectorizerState World) :
    Except ServiceFault Nat × VectorizerState World :=
  match state.dimension with
  | some dimension => (.ok dimension, state)
  | none =>
    match v.probe state.world with
    | (.ok dimension, after) => (.ok dimension, ⟨some dimension, after⟩)
    | (.error fault, after) => (.error fault, ⟨none, after⟩)

def checked (count dimension : Nat) (vectors : List Embedding) :
    Except ServiceFault (List Embedding) :=
  if vectors.length = count then
    match FlatIndex.misfit? dimension vectors with
    | some length => .error (.dimensionMismatch dimension length)
    | none => .ok vectors
  else .error (.lengthMismatch count vectors.length)

def embed (v : Vectorizer World) (texts : List String) (state : VectorizerState World) :
    Except ServiceFault (List Embedding) × VectorizerState World :=
  match v.start state with
  | (.error fault, started) => (.error fault, started)
  | (.ok dimension, started) =>
    if texts.isEmpty then (.ok [], started)
    else
      match v.provider.embed texts started.world with
      | (.error fault, after) => (.error (.provider fault), { started with world := after })
      | (.ok vectors, after) =>
        (checked texts.length dimension vectors, { started with world := after })

end Vectorizer
end CodeAtlas
