import CodeAtlas.Enrichment.Reply

/-!
Asking a chat model for the enrichments of a batch of items, in one request.
-/
namespace CodeAtlas

structure Enricher (World : Type) where
  provider : Provider World
  maxCodeChars : Nat

namespace Enricher

def instructions : String :=
  "You document source code. For every numbered construct " ++
  "you receive, write a one-paragraph description of what it does, a one-sentence summary, " ++
  "and up to five lowercase topic tags. Reply with only a JSON array containing one object " ++
  "per construct, in input order, each shaped as " ++
  "\x7b\"description\": string, \"summary\": string, \"tags\": [string]\x7d."

def describe (maxCodeChars : Nat) (item : Item) (number : Nat) : String :=
  "## " ++ toString number ++ " " ++ item.kind.name ++ " `" ++ item.name ++ "` (" ++
    item.language.id ++ ", " ++ item.filePath ++ ")\n" ++
  (if item.dependencies.isEmpty then ""
   else "Depends on: " ++ ", ".intercalate (item.dependencies.map Dependency.name) ++ "\n") ++
  "```\n" ++ String.ofList (item.code.toList.take maxCodeChars) ++ "\n```\n\n"

def prompt (maxCodeChars : Nat) (items : List Item) : String :=
  String.join (items.zipIdx.map fun (item, i) => describe maxCodeChars item (i + 1))

variable {World : Type}

/-- One enrichment for each item, if the model keeps to its instructions. No items, no request. -/
def enrich (e : Enricher World) (items : List Item) (world : World) :
    Except ServiceFault (List Enrichment) × World :=
  if items.isEmpty then (.ok [], world)
  else
    match e.provider.chat [⟨.system, instructions⟩, ⟨.user, prompt e.maxCodeChars items⟩] world with
    | (.ok reply, after) => (Enrichment.ofReply reply, after)
    | (.error fault, after) => (.error (.provider fault), after)

end Enricher
end CodeAtlas
