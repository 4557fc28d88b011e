import CodeAtlas.Provider.Http
import CodeAtlas.Provider.Url

/-!
A client of a local model server, which needs no key and tries nothing twice.
-/
namespace CodeAtlas

structure OllamaClient where
  url : Url
  model : String
  embeddingModel : String
  deriving DecidableEq, Repr

namespace OllamaClient

def providerName : String := "ollama"

def defaultPort : Nat := 11434

/-- Takes the port off an address, after its last colon. -/
def splitPort (address : Line) : Line × Nat :=
  let trimmed := Text.dropEndWhile (· == '/') address
  match (trimmed.reverse.span (· != ':')) with
  | (port, _ :: host) =>
    match Text.natural? Url.portBound port.reverse with
    | some n => (host.reverse, n)
    | none => (trimmed, defaultPort)
  | (_, []) => (trimmed, defaultPort)

def ofAddress? (address model embeddingModel : String) : Option OllamaClient :=
  let (host, port) := splitPort address.toList
  (Url.ofLine? host).map fun url => ⟨url.withPort (some port), model, embeddingModel⟩

def request (c : OllamaClient) (path : String) (body : Json) : HttpRequest :=
  ⟨c.url.toText ++ path, [("Content-Type", "application/json")], body⟩

def chatRequest (c : OllamaClient) (messages : List Message) : HttpRequest :=
  c.request "api/chat" (.object [("model", .string c.model),
    ("messages", .array (messages.map Message.toJson)), ("stream", .bool false)])

def embeddingRequest (c : OllamaClient) (texts : List String) : HttpRequest :=
  c.request "api/embed" (.object [("model", .string c.embeddingModel), ("input", .ofStrings texts)])

def decodeChat? (value : Json) : Option String :=
  match value.record? ["message"] with
  | some [some message] =>
    match message.record? ["content"] with
    | some [content] => Json.required? Json.string? content
    | _ => none
  | _ => none

def decodeEmbeddings? (value : Json) : Option (List Embedding) :=
  match value.record? ["embeddings"] with
  | some [embeddings] => Json.required? (Json.listOf? Embedding.ofJson?) embeddings
  | _ => none

variable {World : Type}

def exchange {α : Type} (what : String) (connection : Connection World) (request : HttpRequest)
    (decode? : Json → Option α) (world : World) : Except ProviderFault α × World :=
  let failed (reason : String) : Except ProviderFault α :=
    .error (.other ("Ollama " ++ what ++ " request failed: " ++ reason))
  match connection.send request world with
  | (none, after) => (failed ("error sending request for url (" ++ request.url ++ ")"), after)
  | (some response, after) =>
    if response.isSuccess then
      match Json.decodeText decode? response.body with
      | .ok value => (.ok value, after)
      | .error refusal => (failed refusal.message, after)
    else (failed response.body, after)

def chat (c : OllamaClient) (connection : Connection World) (messages : List Message)
    (world : World) : Except ProviderFault String × World :=
  exchange "chat" connection (c.chatRequest messages) decodeChat? world

/-- No texts, no request. -/
def embed (c : OllamaClient) (connection : Connection World) (texts : List String)
    (world : World) : Except ProviderFault (List Embedding) × World :=
  if texts.isEmpty then (.ok [], world)
  else
    match exchange "embedding" connection (c.embeddingRequest texts) decodeEmbeddings? world with
    | (.ok [], after) => (.error (.emptyResponse providerName), after)
    | answer => answer

def provider (c : OllamaClient) (connection : Connection World) : Provider World :=
  ⟨providerName, true, c.chat connection, c.embed connection⟩

end OllamaClient
end CodeAtlas
