import CodeAtlas.Config.Load
import CodeAtlas.Provider.Ollama
import CodeAtlas.Provider.OpenAi

/-!
The provider a configuration asks for.
-/
namespace CodeAtlas

inductive Client where
  | ollama (client : OllamaClient)
  | openAi (client : OpenAiClient)
  deriving DecidableEq, Repr

def Client.provider {World : Type} (connection : Connection World) : Client → Provider World
  | .ollama client => client.provider connection
  | .openAi client => client.provider connection

namespace ProviderConfig

def client (p : ProviderConfig) : Except ConfigFault Client :=
  match p.kind with
  | .ollama =>
    match OllamaClient.ofAddress? p.baseUrl p.model p.embeddingModel with
    | some client => .ok (.ollama client)
    | none => .error (.badAddress p.baseUrl)
  | .openAi =>
    match p.apiKey with
    | none => .error .missingApiKey
    | some key =>
      .ok (.openAi
        { apiKey := key
          baseUrl := p.baseUrl
          model := p.model
          maxTokens := p.maxTokens
          embeddingModel := some p.embeddingModel
          retry := { maxRetries := p.maxRetries } })

end ProviderConfig
end CodeAtlas
