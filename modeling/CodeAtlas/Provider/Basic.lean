import CodeAtlas.Item.Json

/-!
Providers of chat replies and embeddings. What a provider answers may depend on the state of the
world it runs in and may change it.
-/
namespace CodeAtlas

inductive Role where
  | system
  | user
  | assistant
  deriving DecidableEq, Repr

namespace Role

def name : Role → String
  | system => "system"
  | user => "user"
  | assistant => "assistant"

def all : List Role := [system, user, assistant]

def ofName? (s : String) : Option Role := all.find? fun r => r.name == s

end Role

structure Message where
  role : Role
  content : String
  deriving DecidableEq, Repr

def Message.toJson (m : Message) : Json :=
  .object [("role", .string m.role.name), ("content", .string m.content)]

inductive ProviderFault where
  | unreachable (url : String)
  | payload (refusal : Json.Refusal)
  | rateLimited
  | emptyResponse (provider : String)
  | embeddingUnsupported (provider : String)
  | status (provider : String) (code : Nat)
  | other (message : String)
  deriving DecidableEq, Repr

def ProviderFault.message : ProviderFault → String
  | unreachable url => "http transport error: error sending request for url (" ++ url ++ ")"
  | payload refusal => "invalid provider payload: " ++ refusal.message
  | rateLimited => "rate limited"
  | emptyResponse provider => provider ++ " returned no content"
  | embeddingUnsupported provider => provider ++ " has no embedding model configured"
  | status provider code => provider ++ " answered with HTTP " ++ toString code
  | other message => message

structure Provider (World : Type) where
  name : String
  embeds : Bool
  chat : List Message → World → Except ProviderFault String × World
  /-- Vectors in the order of the texts. -/
  embed : List String → World → Except ProviderFault (List Embedding) × World

end CodeAtlas
