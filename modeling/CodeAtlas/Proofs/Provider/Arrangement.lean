import CodeAtlas.Proofs.Json.Record
import CodeAtlas.Provider.OpenAi
import Mathlib.Data.List.Forall2

/-!
The order of embeddings in a reply. They are given back by their indices, in the order of the reply
where indices are the same or left out, so with all indices there each text gets its own.
-/
namespace CodeAtlas
namespace OpenAiClient

open List (Forall₂)

structure Entry where
  index : Option Nat
  vector : Embedding

def Entry.place (e : Entry) : Nat := e.index.getD 0

/-- The value is an object with this index, or none, and with numbers that are read as the vector. -/
def Entry.WrittenAs (e : Entry) (value : Json) : Prop :=
  ∃ fields numbers, value = .object fields ∧
    Json.valuesOf "index" fields = (e.index.map Json.ofNat).toList ∧
    Json.valuesOf "embedding" fields = [numbers] ∧ Embedding.ofJson? numbers = some e.vector

def IsReply (entries : List Entry) (text : String) : Prop :=
  ∃ fields elements, Json.ofText text = .ok (.object fields) ∧
    Json.valuesOf "data" fields = [.array elements] ∧ Forall₂ Entry.WrittenAs entries elements

/-! Reading a reply -/

theorem decodePlaced_written {e : Entry} {value : Json} (written : e.WrittenAs value) :
    decodePlaced? value = some ⟨e.place, e.vector⟩ := by
  obtain ⟨fields, numbers, rfl, index, embedding, read⟩ := written
  have once : ∀ name ∈ ["index", "embedding"], (Json.valuesOf name fields).length ≤ 1 := by
    intro name member
    simp only [List.mem_cons, List.not_mem_nil, or_false] at member
    rcases member with rfl | rfl
    · rw [index]
      cases e.index <;> simp
    · rw [embedding]
      exact Nat.le_refl 1
  rw [decodePlaced?, Json.record_object once]
  simp only [List.map_cons, List.map_nil, index, embedding]
  cases found : e.index with
  | none => simp [Json.defaulted?, Json.required?, read, Entry.place, found]
  | some i => simp [Json.defaulted?, Json.required?, read, Entry.place, found, Json.nat_ofNat]

theorem mapM_written {entries : List Entry} {elements : List Json}
    (written : Forall₂ Entry.WrittenAs entries elements) :
    elements.mapM decodePlaced? = some (entries.map fun e => ⟨e.place, e.vector⟩) := by
  induction written with
  | nil => rfl
  | cons first rest ih => simp [decodePlaced_written first, ih]

theorem decodeText_reply {entries : List Entry} {text : String} (reply : IsReply entries text) :
    Json.decodeText decodeData? text = .ok (entries.map fun e => ⟨e.place, e.vector⟩) := by
  obtain ⟨fields, elements, read, data, written⟩ := reply
  have once : ∀ name ∈ ["data"], (Json.valuesOf name fields).length ≤ 1 := by
    intro name member
    rw [List.mem_singleton.mp member, data]
    exact Nat.le_refl 1
  rw [Json.decodeText, read]
  simp [decodeData?, Json.record_object once, data, Json.required?, Json.listOf?, mapM_written written]

/-! Arranging entries -/

def Entry.precedes (a b : Entry) : Bool := a.place ≤ b.place

theorem precedes_trans (a b c : Entry) (first : a.precedes b = true) (second : b.precedes c = true) :
    a.precedes c = true := by
  simp only [Entry.precedes, decide_eq_true_eq] at *
  omega

theorem precedes_total (a b : Entry) : (a.precedes b || b.precedes a) = true := by
  simp only [Entry.precedes, Bool.or_eq_true, decide_eq_true_eq]
  omega

def inOrderOfIndex (entries : List Entry) : List Entry := entries.mergeSort Entry.precedes

theorem arranged_entries (entries : List Entry) :
    arranged (entries.map fun e => ⟨e.place, e.vector⟩) =
      (inOrderOfIndex entries).map Entry.vector := by
  rw [arranged, inOrderOfIndex, ← List.map_mergeSort (r := Entry.precedes), List.map_map]
  · rfl
  · exact fun _ _ _ _ => rfl

structure ArrangedByIndex (entries order : List Entry) : Prop where
  same : order.Perm entries
  ordered : order.Pairwise fun a b => a.place ≤ b.place
  stable : ∀ place, order.filter (fun e => e.place == place) =
    entries.filter fun e => e.place == place

theorem inOrderOfIndex_arranged (entries : List Entry) :
    ArrangedByIndex entries (inOrderOfIndex entries) where
  same := List.mergeSort_perm entries Entry.precedes
  ordered := by
    have sorted := List.pairwise_mergeSort precedes_trans precedes_total entries
    exact sorted.imp fun before => of_decide_eq_true before
  stable := by
    intro place
    let group := entries.filter fun e => e.place == place
    have alike : group.Pairwise fun a b => a.precedes b = true := by
      apply List.pairwise_of_forall_mem_list
      intro a first b second
      have left : a.place = place := eq_of_beq (List.mem_filter.mp first).2
      have right : b.place = place := eq_of_beq (List.mem_filter.mp second).2
      exact decide_eq_true (Nat.le_of_eq (left.trans right.symm))
    have within : group.Sublist (inOrderOfIndex entries) :=
      List.sublist_mergeSort precedes_trans precedes_total alike List.filter_sublist
    have counts : group.length = ((inOrderOfIndex entries).filter fun e => e.place == place).length :=
      ((List.mergeSort_perm entries Entry.precedes).filter _).length_eq.symm
    have filtered := within.filter fun e => e.place == place
    rw [List.filter_filter] at filtered
    simp only [Bool.and_self] at filtered
    exact (filtered.eq_of_length counts).symm

theorem inOrderOfIndex_full {entries : List Entry} {vectors : List Embedding}
    (full : entries.Perm (vectors.mapIdx fun i v => ⟨some i, v⟩)) :
    inOrderOfIndex entries = vectors.mapIdx fun i v => ⟨some i, v⟩ := by
  have arranged := inOrderOfIndex_arranged entries
  apply List.Perm.eq_of_pairwise ?_ arranged.ordered ?_ (arranged.same.trans full)
  · intro a b first second before after
    obtain ⟨i, inside, rfl⟩ := List.mem_mapIdx.mp ((arranged.same.trans full).subset first)
    obtain ⟨j, inside', rfl⟩ := List.mem_mapIdx.mp second
    obtain rfl : i = j := Nat.le_antisymm before after
    rfl
  · apply List.pairwise_iff_getElem.mpr
    intro i j _ _ before
    simp only [List.getElem_mapIdx]
    exact Nat.le_of_lt before

theorem inOrderOfIndex_unindexed {entries : List Entry} (bare : ∀ e ∈ entries, e.index = none) :
    inOrderOfIndex entries = entries := by
  apply List.mergeSort_of_pairwise
  apply List.pairwise_of_forall_mem_list
  intro a first b second
  simp [Entry.precedes, Entry.place, bare a first, bare b second]

variable {World : Type}

/-- Whatever stands in a reply besides, texts are given the vectors of its entries in the order of
their indices: with every index once that is the order of the texts, and entries with the same index
or none stay in the order of the reply. -/
theorem embeddings_follow_their_indices (c : OpenAiClient) (connection : Connection World)
    {model : String} (configured : c.embeddingModel = some model) {texts : List String}
    (some_text : texts ≠ []) {world after : World} {response : HttpResponse}
    (answered : c.retry.send providerName connection (c.embeddingRequest model texts) world =
      (.ok response, after))
    (success : response.isSuccess = true) {entries : List Entry} (some_entry : entries ≠ [])
    (reply : IsReply entries response.body) :
    ∃ vectors, (c.provider connection).embed texts world = (.ok vectors, after) ∧
      (∀ wanted : List Embedding, entries.Perm (wanted.mapIdx fun i v => ⟨some i, v⟩) →
        vectors = wanted) ∧
      (∃ order, ArrangedByIndex entries order ∧ vectors = order.map Entry.vector) ∧
      ((∀ e ∈ entries, e.index = none) → vectors = entries.map Entry.vector) := by
  refine ⟨(inOrderOfIndex entries).map Entry.vector, ?_, ?_, ?_, ?_⟩
  · have read : readEmbeddings response.body = .ok ((inOrderOfIndex entries).map Entry.vector) := by
      rw [readEmbeddings, decodeText_reply reply, ← arranged_entries]
      cases entries with
      | nil => exact absurd rfl some_entry
      | cons first rest => rfl
    have nonempty : texts.isEmpty = false := by simpa using some_text
    calc (c.provider connection).embed texts world
      _ = c.exchange connection (c.embeddingRequest model texts) readEmbeddings world := by
        simp [provider, embed, configured, nonempty]
      _ = (.ok ((inOrderOfIndex entries).map Entry.vector), after) := by
        simp only [exchange, answered, success, if_true, read]
  · intro wanted full
    rw [inOrderOfIndex_full full]
    apply List.ext_getElem <;> simp
  · exact ⟨_, inOrderOfIndex_arranged entries, rfl⟩
  · intro bare
    rw [inOrderOfIndex_unindexed bare]

theorem reversed_entries_embedded_in_order :
    let client : OpenAiClient := ⟨"key", "http://host/", "chat", 16, some "small", ⟨1, 0⟩, false⟩
    let body := "\x7b\"object\":\"list\",\"data\":[\x7b\"index\":1,\"embedding\":[2]\x7d," ++
      "\x7b\"embedding\":[1],\"index\":0\x7d]\x7d"
    let answer (n : Nat) : HttpResponse := if n = 0 then ⟨429, [], ""⟩ else ⟨200, [], body⟩
    let connection : Connection Nat := ⟨fun _ n => (some (answer n), n + 1), fun _ n => n,
      fun _ n => n⟩
    let entries : List Entry := [⟨some 1, [Decimal.singleOfNat 2]⟩, ⟨some 0, [Decimal.singleOfNat 1]⟩]
    client.retry.send providerName connection (client.embeddingRequest "small" ["a", "b"]) 0 =
        (.ok (answer 1), 2) ∧
      IsReply entries (answer 1).body ∧ (client.provider connection).embed ["a", "b"] 0 =
        (.ok [[Decimal.singleOfNat 1], [Decimal.singleOfNat 2]], 2) := by
  intro client body answer connection entries
  have answered : client.retry.send providerName connection
      (client.embeddingRequest "small" ["a", "b"]) 0 = (.ok (answer 1), 2) := rfl
  have read : Json.ofText body = .ok (.object [("object", .string "list"),
      ("data", .array [.object [("index", .ofNat 1), ("embedding", .array [.ofNat 2])],
        .object [("embedding", .array [.ofNat 1]), ("index", .ofNat 0)]])]) := by
    decide +kernel
  have reply : IsReply entries body := by
    refine ⟨_, _, read, rfl, .cons ?_ (.cons ?_ .nil)⟩
    · exact ⟨_, _, rfl, rfl, rfl, rfl⟩
    · exact ⟨_, _, rfl, rfl, rfl, rfl⟩
  obtain ⟨vectors, embedded, full, -⟩ := embeddings_follow_their_indices client connection rfl
    (List.cons_ne_nil _ _) answered rfl (List.cons_ne_nil _ _) reply
  have ordered : vectors = [[Decimal.singleOfNat 1], [Decimal.singleOfNat 2]] :=
    full _ (List.Perm.swap _ _ [])
  exact ⟨answered, reply, ordered ▸ embedded⟩

end OpenAiClient
end CodeAtlas
