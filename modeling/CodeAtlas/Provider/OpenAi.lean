import CodeAtlas.Provider.Http
import CodeAtlas.Text.Quoted

/-!
A client of servers that answer chat completions and embeddings. Requests carry a key; embeddings
need a model of their own.
-/
namespace CodeAtlas

structure OpenAiClient where
  apiKey : String
  baseUrl : String
  model : String
  maxTokens : Nat
  embeddingModel : Option String
  retry : RetryPolicy := {}
  /-- Whether somebody is told about retries. -/
  notifies : Bool := false
  deriving DecidableEq, Repr

namespace OpenAiClient

def providerName : String := "openai"

def withoutSlashes (url : String) : String :=
  String.ofList (Text.dropEndWhile (· == '/') url.toList)

/-- A line about the client that does not show its key. -/
def describe (c : OpenAiClient) : String :=
  "OpenAiProvider \x7b client: \"<reqwest::Client>\", api_key: \"<redacted>\", base_url: " ++
    Text.quoted (withoutSlashes c.baseUrl) ++ ", model: " ++ Text.quoted c.model ++
    ", max_tokens: " ++ toString c.maxTokens ++ ", embedding_model: " ++
    (match c.embeddingModel with
      | some model => "Some(" ++ Text.quoted model ++ ")"
      | none => "None") ++
    ", status_tx: " ++ (if c.notifies then "true" else "false") ++ ", .. \x7d"

def request (c : OpenAiClient) (path : String) (body : Json) : HttpRequest :=
  { url := withoutSlashes c.baseUrl ++ path
    headers := [("Authorization", "Bearer " ++ c.apiKey), ("Content-Type", "application/json")]
    body := body }

def chatRequest (c : OpenAiClient) (messages : List Message) : HttpRequest :=
  c.request "/chat/completions" (.object [("model", .string c.model),
    ("messages", .array (messages.map Message.toJson)), ("max_tokens", .ofNat c.maxTokens)])

def embeddingRequest (c : OpenAiClient) (model : String) (texts : List String) : HttpRequest :=
  c.request "/embeddings" (.object [("input", .ofStrings texts), ("model", .string model)])

def decodeChoice? (value : Json) : Option (Option String) :=
  match value.record? ["message"] with
  | some [some message] =>
    match message.record? ["content"] with
    | some [content] => Json.defaulted? none (Json.optional? Json.string?) content
    | _ => none
  | _ => none

def decodeChoices? (value : Json) : Option (List (Option String)) :=
  match value.record? ["choices"] with
  | some [choices] => Json.required? (Json.listOf? decodeChoice?) choices
  | _ => none

structure Placed where
  index : Nat
  embedding : Embedding
  deriving DecidableEq, Repr

def decodePlaced? (value : Json) : Option Placed :=
  match value.record? ["index", "embedding"] with
  | some [index, embedding] => do
    let index ← Json.defaulted? 0 Json.nat? index
    let embedding ← Json.required? Embedding.ofJson? embedding
    some ⟨index, embedding⟩
  | _ => none

def decodeData? (value : Json) : Option (List Placed) :=
  match value.record? ["data"] with
  | some [data] => Json.required? (Json.listOf? decodePlaced?) data
  | _ => none

/-- Embeddings by index; those with the same index stay in the order of the reply. -/
def arranged (placed : List Placed) : List Embedding :=
  (placed.mergeSort fun a b => a.index ≤ b.index).map Placed.embedding

def readChat (body : String) : Except ProviderFault String :=
  match Json.decodeText decodeChoices? body with
  | .error refusal => .error (.payload refusal)
  | .ok (some content :: _) => .ok content
  | .ok _ => .error (.emptyResponse providerName)

def readEmbeddings (body : String) : Except ProviderFault (List Embedding) :=
  match Json.decodeText decodeData? body with
  | .error refusal => .error (.payload refusal)
  | .ok [] => .error (.emptyResponse providerName)
  | .ok placed => .ok (arranged placed)

variable {World : Type}

def exchange {α : Type} (c : OpenAiClient) (connection : Connection World) (request : HttpRequest)
    (read : String → Except ProviderFault α) (world : World) : Except ProviderFault α × World :=
  match c.retry.send providerName connection request world with
  | (.error fault, after) => (.error fault, after)
  | (.ok response, after) =>
    if response.isSuccess then (read response.body, after)
    else (.error (.status providerName response.status), after)

def chat (c : OpenAiClient) (connection : Connection World) (messages : List Message)
    (world : World) : Except ProviderFault String × World :=
  c.exchange connection (c.chatRequest messages) readChat world

def embed (c : OpenAiClient) (connection : Connection World) (texts : List String)
    (world : World) : Except ProviderFault (List Embedding) × World :=
  match c.embeddingModel with
  | none => (.error (.embeddingUnsupported providerName), world)
  | some model =>
    if texts.isEmpty then (.ok [], world)
    else c.exchange connection (c.embeddingRequest model texts) readEmbeddings world

def provider (c : OpenAiClient) (connection : Connection World) : Provider World :=
  ⟨providerName, c.embeddingModel.isSome, c.chat connection, c.embed connection⟩

end OpenAiClient
end CodeAtlas
