import CodeAtlas.Item.Basic
import CodeAtlas.Text.Lines

/-!
Enrichments: what a chat model says about an item.
-/
namespace CodeAtlas

structure Enrichment where
  description : String
  summary : String := ""
  tags : List String := []
  deriving DecidableEq, Repr

namespace Enrichment

def failureMark : String := "[enrichment failed]"

def failureText (reason : String) : String := failureMark ++ " " ++ reason

def failed (reason : String) : Enrichment := ⟨failureText reason, failureText reason, []⟩

def marksFailure (text : String) : Bool := Text.startsWith failureMark.toList text.toList

def isFailed (e : Enrichment) : Bool := marksFailure e.description

def apply (e : Enrichment) (item : Item) : Item :=
  { item with description := some e.description, summary := some e.summary, tags := some e.tags }

/-- Fills in only what the item does not say yet. -/
def fillMissing (e : Enrichment) (item : Item) : Item :=
  { item with
    description := some (item.description.getD e.description)
    summary := some (item.summary.getD e.summary)
    tags := some (item.tags.getD []) }

end Enrichment
end CodeAtlas
