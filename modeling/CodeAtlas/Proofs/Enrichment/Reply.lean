import CodeAtlas.Enrichment.Reply
import CodeAtlas.Proofs.Json.Fields
import CodeAtlas.Proofs.Json.Integers
import CodeAtlas.Proofs.Text.Lines

/-!
Replies read back. Whatever texts the enrichments of a reply hold, the array is found among the text
around it and gives the same enrichments; an element that is none spoils its own place alone, unless
it is a whole number out of range, with which no array can be read.
-/
namespace CodeAtlas.Enrichment

open List (Forall₂)
open Json (Spacing Rereads)

/-! Finding the array -/

theorem dropWhile_until {mark : Char} {front : Line} (absent : mark ∉ front) (rest : Line) :
    (front ++ mark :: rest).dropWhile (· != mark) = mark :: rest := by
  have other : ∀ c ∈ front, (c != mark) = true := by
    intro c member
    simpa using fun same : c = mark => absent (same ▸ member)
  rw [List.dropWhile_append_of_pos other, List.dropWhile_cons_of_neg (by simp)]

theorem arrayText_between {before after : Line} (opens : '[' ∉ before) (closes : ']' ∉ after)
    (body : Line) :
    arrayText? (before ++ ('[' :: body ++ [']']) ++ after) = some ('[' :: body ++ [']']) := by
  have layout : before ++ ('[' :: body ++ [']']) ++ after =
      before ++ '[' :: (body ++ ']' :: after) := by simp
  have backwards : ('[' :: (body ++ ']' :: after)).reverse =
      after.reverse ++ ']' :: ('[' :: body).reverse := by simp
  have back : Text.dropEndWhile (· != ']') ('[' :: (body ++ ']' :: after)) =
      '[' :: body ++ [']'] := by
    rw [Text.dropEndWhile, backwards, dropWhile_until (by simpa using closes), List.reverse_cons,
      List.reverse_reverse]
  have closed : ('[' :: (body ++ ']' :: after)).contains ']' = true := by simp
  rw [layout, arrayText?, dropWhile_until opens]
  simp only [back, closed, if_true]

theorem write_array_brackets (s : Spacing) (depth : Nat) (elements : List Json) :
    ∃ body, Json.write s depth (.array elements) = '[' :: body ++ [']'] := by
  cases elements with
  | nil => exact ⟨[], rfl⟩
  | cons x xs =>
    refine ⟨s.gap (depth + 1) ++ (Json.write s (depth + 1) x ++
      (Json.writeMore s (depth + 1) xs ++ s.gap depth)), ?_⟩
    rw [Json.write_array_cons]
    simp only [List.append_assoc, List.cons_append]

def replyText (s : Spacing) (before : Line) (elements : List Json) (after : Line) : String :=
  String.ofList (before ++ Json.write s 0 (.array elements) ++ after)

section Replies

variable {s : Spacing} {before after : Line} (opens : '[' ∉ before) (closes : ']' ∉ after)

include opens closes

theorem arrayText_replyText (elements : List Json) :
    arrayText? (replyText s before elements after).toList =
      some (Json.write s 0 (.array elements)) := by
  obtain ⟨body, written⟩ := write_array_brackets s 0 elements
  rw [replyText, String.toList_ofList, written]
  exact arrayText_between opens closes body

/-- A reply whose array is read gives what its elements stand for. -/
theorem ofReply_replyText (blank : s.Blank) {levels : Nat} {elements reread : List Json}
    (rereads : Forall₂ (Rereads s levels) elements reread) (deep : levels < Json.deepest) :
    ofReply (replyText s before elements after) = .ok (reread.map ofElement) := by
  have read := Json.read_write (Json.rereads_array blank rereads) deep
  simp only [ofReply, arrayText_replyText opens closes, read]

end Replies

/-! Enrichments -/

def toJson (e : Enrichment) : Json :=
  .object [("description", .string e.description), ("summary", .string e.summary),
    ("tags", .ofStrings e.tags)]

variable {s : Spacing}

theorem rereads_toJson (blank : s.Blank) (e : Enrichment) : Rereads s 2 e.toJson e.toJson := by
  refine Json.rereads_object blank (.cons ⟨rfl, Json.rereads_string _⟩
    (.cons ⟨rfl, Json.rereads_string _⟩ (.cons ⟨rfl, ?_⟩ .nil)))
  exact Json.rereads_ofStrings blank e.tags

theorem canonical_toJson (e : Enrichment) : e.toJson.canonical = e.toJson := by
  simp [toJson, Json.canonical, Json.canonicalFields, Json.canonical_ofStrings, Json.mergeFields,
    Json.putField]

theorem mapM_decodeString (texts : List String) :
    (texts.map Json.string).mapM decodeString = .ok texts := by
  induction texts with
  | nil => rfl
  | cons text texts ih =>
    rw [List.map_cons, List.mapM_cons, ih]
    rfl

theorem decode_toJson (e : Enrichment) : decode e.toJson = .ok e := by
  have tags : decodeStrings (.ofStrings e.tags) = .ok e.tags := mapM_decodeString e.tags
  have read : [("description", .string e.description), ("summary", .string e.summary),
      ("tags", .ofStrings e.tags)].foldlM Partial.read {} =
        .ok ⟨some e.description, e.summary, e.tags⟩ := by
    simp only [List.foldlM_cons, List.foldlM_nil, Partial.read, decodeString, tags]
    rfl
  rw [toJson, decode, decodeFields, read]
  rfl

theorem ofElement_toJson (e : Enrichment) : ofElement e.toJson = e := by
  rw [ofElement, canonical_toJson, decode_toJson]

/-! Elements that are no enrichments -/

/-- Elements that are neither objects nor arrays, with whole numbers of any size. -/
inductive Scalar where
  | null
  | boolean (b : Bool)
  | integer (n : Int)
  | string (text : String)

namespace Scalar

def toJson : Scalar → Json
  | null => .null
  | boolean b => .bool b
  | integer n => .number (.int n)
  | string text => .string text

/-- A number in range, or no number. -/
def Readable : Scalar → Prop
  | integer n => Json.InRange n.natAbs
  | _ => True

theorem rereads_readable (s : Spacing) {scalar : Scalar} (readable : scalar.Readable) :
    ∃ value, Rereads s 2 scalar.toJson value ∧ ∃ reason, ofElement value = failed reason := by
  cases scalar with
  | null => exact ⟨_, Json.rereads_null, _, rfl⟩
  | boolean b => exact ⟨_, Json.rereads_bool b, _, rfl⟩
  | integer n =>
    obtain ⟨m, rereads⟩ := Json.rereads_inRange readable
    exact ⟨_, rereads, _, rfl⟩
  | string text => exact ⟨_, Json.rereads_string text, _, rfl⟩

theorem refused_unreadable (s : Spacing) {scalar : Scalar} (unreadable : ¬ scalar.Readable)
    (depth : Nat) : Json.Refused (Json.write s depth scalar.toJson) .numberOutOfRange := by
  cases scalar with
  | integer n => exact Json.refused_out_of_range unreadable depth
  | null | boolean | string => exact absurd trivial unreadable

end Scalar

theorem failed_isFailed (reason : String) : (failed reason).isFailed = true := by
  have text : (failed reason).description.toList =
      failureMark.toList ++ (" " ++ reason).toList := by
    simp only [failed, failureText, String.toList_append, List.append_assoc]
  rw [isFailed, marksFailure, text, Text.startsWith, Text.stripPrefix_append]
  rfl

/-! Replies with one element replaced -/

section Replaced

variable (es : List Enrichment) {i : Nat}

theorem set_toJson (inside : i < es.length) (x : Json) :
    (es.map toJson).set i x =
      (es.take i).map toJson ++ x :: (es.drop (i + 1)).map toJson := by
  rw [List.set_eq_take_append_cons_drop, if_pos (by simpa using inside), List.map_take,
    List.map_drop]

theorem rereads_elements (blank : s.Blank) :
    Forall₂ (Rereads s 2) (es.map toJson) (es.map toJson) := by
  rw [List.forall₂_same]
  intro x member
  obtain ⟨e, -, rfl⟩ := List.mem_map.mp member
  exact rereads_toJson blank e

theorem map_ofElement : (es.map toJson).map ofElement = es := by
  have same : ∀ e ∈ es, (ofElement ∘ toJson) e = id e := fun e _ => ofElement_toJson e
  rw [List.map_map, List.map_congr_left same, List.map_id]

variable (blank : s.Blank) {before after : Line} (opens : '[' ∉ before) (closes : ']' ∉ after)

include blank opens closes

theorem ofReply_readable (inside : i < es.length) {scalar : Scalar} (readable : scalar.Readable) :
    ∃ reason, ofReply (replyText s before ((es.map toJson).set i scalar.toJson) after) =
      .ok (es.set i (failed reason)) := by
  obtain ⟨value, rereads, reason, element⟩ := Scalar.rereads_readable s readable
  have elements : Forall₂ (Rereads s 2) ((es.map toJson).set i scalar.toJson)
      ((es.take i).map toJson ++ value :: (es.drop (i + 1)).map toJson) := by
    rw [set_toJson es inside]
    exact List.rel_append (rereads_elements (es.take i) blank)
      (.cons rereads (rereads_elements (es.drop (i + 1)) blank))
  refine ⟨reason, ?_⟩
  rw [ofReply_replyText opens closes blank elements (by decide), List.map_append, List.map_cons,
    map_ofElement, map_ofElement, element, List.set_eq_take_append_cons_drop, if_pos inside]

theorem ofReply_unreadable (inside : i < es.length) {scalar : Scalar}
    (unreadable : ¬ scalar.Readable) :
    ∃ line column, ofReply (replyText s before ((es.map toJson).set i scalar.toJson) after) =
      .error (.payload (.text ⟨.numberOutOfRange, line, column⟩)) := by
  obtain ⟨line, column, fault⟩ := Json.read_refused_array blank (rereads_elements (es.take i) blank)
    (Scalar.refused_unreadable s unreadable) ((es.drop (i + 1)).map toJson) (by decide)
  rw [← set_toJson es inside] at fault
  refine ⟨line, column, ?_⟩
  simp only [ofReply, arrayText_replyText opens closes, fault]

end Replaced

/-- A list of enrichments is read back from its text in any layout, with any text around it that does
not hold the bracket the array is found by. With a null, a boolean, a whole number or a string in
place of one element, that place alone becomes a failed enrichment, unless the number is out of range:
then nothing is read. -/
theorem replies_read_back_by_element (s : Spacing) (blank : s.Blank) (es : List Enrichment)
    (before after : Line) (opens : '[' ∉ before) (closes : ']' ∉ after) :
    ofReply (replyText s before (es.map toJson) after) = .ok es ∧
      ∀ i < es.length, ∀ scalar : Scalar,
        let reply := replyText s before ((es.map toJson).set i scalar.toJson) after
        (scalar.Readable → ∃ reason, ofReply reply = .ok (es.set i (failed reason)) ∧
          (failed reason).isFailed = true) ∧
        (¬ scalar.Readable → ∃ line column, ofReply reply =
          .error (.payload (.text ⟨.numberOutOfRange, line, column⟩))) := by
  refine ⟨?_, ?_⟩
  · rw [ofReply_replyText opens closes blank (rereads_elements es blank) (by decide), map_ofElement]
  · intro i inside scalar
    refine ⟨?_, ofReply_unreadable es blank opens closes inside⟩
    intro readable
    obtain ⟨reason, read⟩ := ofReply_readable es blank opens closes inside readable
    exact ⟨reason, read, failed_isFailed reason⟩

/-- Enrichments with brackets in their texts, in a fenced reply, and a number in place of the second. -/
theorem fenced_reply_is_read :
    let e : Enrichment := ⟨"adds a[i]", "a \"sum\" ]", ["math"]⟩
    let other : Enrichment := ⟨"prints [", "", []⟩
    let before := "Sure:\n```json\n".toList
    let after := "\n```".toList
    let reply (elements : List Json) := replyText Json.compactSpacing before elements after
    Json.compactSpacing.Blank ∧ '[' ∉ before ∧ ']' ∉ after ∧
      ofReply (reply [e.toJson, other.toJson, e.toJson]) = .ok [e, other, e] ∧
      ∃ reason, ofReply (reply [e.toJson, (Scalar.integer 42).toJson, e.toJson]) =
        .ok [e, failed reason, e] := by
  intro e other before after reply
  have blank := Json.compactSpacing_blank
  have opens : '[' ∉ before := by decide
  have closes : ']' ∉ after := by decide
  have readable : (Scalar.integer 42).Readable := Json.inRange_word (by decide)
  obtain ⟨whole, replaced⟩ := replies_read_back_by_element Json.compactSpacing blank [e, other, e]
    before after opens closes
  obtain ⟨reason, read, -⟩ := (replaced 1 (by decide) (.integer 42)).1 readable
  exact ⟨blank, opens, closes, whole, reason, read⟩

/-- With a whole number of 331 digits in place of the second enrichment, the first is lost as well. -/
theorem long_integer_fails_reply :
    let e : Enrichment := ⟨"adds", "", []⟩
    let long := Scalar.integer (10 ^ (20 + 310) : Nat)
    let reply := replyText Json.compactSpacing [] (([e, e].map toJson).set 1 long.toJson) []
    Json.compactSpacing.Blank ∧ (∃ line column, ofReply reply =
      .error (.payload (.text ⟨.numberOutOfRange, line, column⟩))) ∧
      ∀ reason, ofReply reply ≠ .ok ([e, e].set 1 (failed reason)) := by
  intro e long reply
  have unreadable : ¬ long.Readable := by
    rw [Scalar.Readable, Int.natAbs_natCast]
    exact Json.power_out_of_range (by decide)
  obtain ⟨line, column, fault⟩ := ofReply_unreadable [e, e] Json.compactSpacing_blank
    List.not_mem_nil List.not_mem_nil Nat.one_lt_two unreadable
  refine ⟨Json.compactSpacing_blank, ⟨line, column, fault⟩, ?_⟩
  intro reason read
  rw [fault] at read
  cases read

end CodeAtlas.Enrichment
