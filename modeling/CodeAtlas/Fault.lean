import CodeAtlas.FileTree
import CodeAtlas.Provider.Basic

/-!
Faults of the services a run relies on: providers, files, saved texts and the index.
-/
namespace CodeAtlas

inductive ServiceFault where
  | provider (fault : ProviderFault)
  | file (fault : FileFault)
  | payload (refusal : Json.Refusal)
  | lengthMismatch (expected actual : Nat)
  | dimensionMismatch (expected actual : Nat)
  | index (message : String)
  | other (message : String)
  deriving DecidableEq, Repr

def ServiceFault.message : ServiceFault → String
  | provider fault => fault.message
  | file fault => "I/O error: " ++ fault.message
  | payload refusal => "JSON error: " ++ refusal.message
  | lengthMismatch expected actual =>
    "expected " ++ toString expected ++ " results, got " ++ toString actual
  | dimensionMismatch expected actual =>
    "expected vectors of dimension " ++ toString expected ++ ", got " ++ toString actual
  | index message => "index error: " ++ message
  | other message => message

end CodeAtlas
