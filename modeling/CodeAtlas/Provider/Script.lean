import CodeAtlas.Provider.Basic

/-!
A provider that follows a script: replies come from a list, a text's embedding is computed from
its octets, and chosen calls fail or return one vector too few. Calls are counted from zero.
-/
namespace CodeAtlas

structure Script where
  defaultReply : String := "mock response"
  dimension : Nat := 8
  embeds : Bool := true
  failsChat : Bool := false
  failedEmbeddings : List Nat := []
  shortEmbeddings : List Nat := []
  deriving DecidableEq, Repr

/-- The replies still to be given, and the calls so far: the messages of each chat and the number of
texts of each embedding. -/
structure ScriptState where
  replies : List String := []
  chats : List (List Message) := []
  embeddings : List Nat := []
  deriving DecidableEq, Repr

namespace Script

/-- Sevenths, none of them zero. -/
def embeddingOf (s : Script) (text : String) : Embedding :=
  let seed := text.toUTF8.toList.foldl (fun n octet => n + octet.toNat) 0
  (List.range s.dimension).map fun i =>
    Decimal.singleOfNat ((seed + i) % 7 + 1) / Decimal.singleOfNat 7

def chat (s : Script) (messages : List Message) (state : ScriptState) :
    Except ProviderFault String × ScriptState :=
  let logged := { state with chats := state.chats ++ [messages] }
  if s.failsChat then (.error (.other "mock LLM error"), logged)
  else
    match state.replies with
    | [] => (.ok s.defaultReply, logged)
    | reply :: rest => (.ok reply, { logged with replies := rest })

def embed (s : Script) (texts : List String) (state : ScriptState) :
    Except ProviderFault (List Embedding) × ScriptState :=
  if s.embeds then
    let call := state.embeddings.length
    let logged := { state with embeddings := state.embeddings ++ [texts.length] }
    if s.failedEmbeddings.contains call then
      (.error (.other ("mock embedding failure on call " ++ toString call)), logged)
    else
      let vectors := texts.map s.embeddingOf
      (.ok (if s.shortEmbeddings.contains call then vectors.dropLast else vectors), logged)
  else (.error (.embeddingUnsupported "mock"), state)

def provider (s : Script) : Provider ScriptState := ⟨"mock", s.embeds, s.chat, s.embed⟩

end Script
end CodeAtlas
