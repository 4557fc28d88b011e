import CodeAtlas.Enrichment.Basic
import CodeAtlas.Fault
import CodeAtlas.Text.Quoted

/-!
Reading enrichments out of a chat reply. The reply holds an array somewhere, with one object for
each item; an element that is none of these becomes a failed enrichment, and the others stay.
-/
namespace CodeAtlas.Enrichment

def named : Json → String
  | .null => "null"
  | .bool b => "boolean `" ++ (if b then "true" else "false") ++ "`"
  | .number (.int n) => "integer `" ++ toString n ++ "`"
  | .number n => "floating point `" ++ String.ofList (Json.writeNumber n) ++ "`"
  | .string s => "string " ++ Text.quoted s
  | .array _ => "sequence"
  | .object _ => "map"

def unexpected {α : Type} (value : Json) (expected : String) : Except String α :=
  .error ("invalid type: " ++ named value ++ ", expected " ++ expected)

def decodeString : Json → Except String String
  | .string s => .ok s
  | value => unexpected value "a string"

def decodeStrings : Json → Except String (List String)
  | .array elements => elements.mapM decodeString
  | value => unexpected value "a sequence"

def decodeField {α : Type} (fallback : α) (decode : Json → Except String α) :
    Option Json → Except String α
  | none => .ok fallback
  | some value => decode value

structure Partial where
  description : Option String := none
  summary : String := ""
  tags : List String := []
  deriving DecidableEq, Repr

/-- Reads one field; fields of other names do not count. -/
def Partial.read (p : Partial) (field : String × Json) : Except String Partial :=
  if field.1 = "description" then
    (decodeString field.2).map fun text => { p with description := some text }
  else if field.1 = "summary" then
    (decodeString field.2).map fun text => { p with summary := text }
  else if field.1 = "tags" then
    (decodeStrings field.2).map fun tags => { p with tags := tags }
  else .ok p

def decodeFields (fields : List (String × Json)) : Except String Enrichment := do
  let read ← fields.foldlM Partial.read {}
  match read.description with
  | some text => .ok ⟨text, read.summary, read.tags⟩
  | none => .error "missing field `description`"

/-- An array of the fields; fields at the end may be left out, but none may follow. -/
def decodeElements : List Json → Except String Enrichment
  | [] => .error "invalid length 0, expected struct Enrichment with 3 elements"
  | first :: rest => do
    let description ← decodeString first
    let summary ← decodeField "" decodeString rest[0]?
    let tags ← decodeField [] decodeStrings rest[1]?
    if 2 < rest.length then
      .error ("invalid length " ++ toString (rest.length + 1) ++
        ", expected fewer elements in array")
    else .ok ⟨description, summary, tags⟩

def decode : Json → Except String Enrichment
  | .object fields => decodeFields fields
  | .array elements => decodeElements elements
  | value => unexpected value "struct Enrichment"

def ofElement (element : Json) : Enrichment :=
  match decode element.canonical with
  | .ok enrichment => enrichment
  | .error reason => failed ("unparseable response entry: " ++ reason)

/-- The text from the first opening to the last closing bracket. -/
def arrayText? (reply : Line) : Option Line :=
  let body := reply.dropWhile (· != '[')
  if body.contains ']' then some (Text.dropEndWhile (· != ']') body) else none

def ofReply (reply : String) : Except ServiceFault (List Enrichment) :=
  match arrayText? reply.toList with
  | none => .error (.other "enrichment response contains no JSON array")
  | some text =>
    match Json.read text with
    | .error fault => .error (.payload (.text fault))
    | .ok (.array elements) => .ok (elements.map ofElement)
    | .ok _ => .error (.payload .shape)

end CodeAtlas.Enrichment
