import CodeAtlas.Proofs.FileTree.Writing
import CodeAtlas.Proofs.Index.Building
import CodeAtlas.Proofs.Index.Scaling
import CodeAtlas.Proofs.Index.Table
import CodeAtlas.Proofs.Json.Singles

/-!
Loading a saved index again. Whatever a builder was told before, it holds vectors of one length, so
a saved index can be loaded unless one of its components is infinite or not a number: these are
written as `null`, which is no number to the reader. Scaling makes no such component and removes
none, so all depends on the vectors the builder was given.
-/
namespace CodeAtlas

open List (Forall₂)

def FiniteVectors (vectors : List Embedding) : Prop := ∀ v ∈ vectors, ∀ x ∈ v, x.isFinite = true

section Texts

open Json

variable {s : Spacing}

theorem Embedding.restores_toJson (blank : s.Blank) (v : Embedding) :
    Restores s 1 v.toJson Embedding.ofJson? (∀ x ∈ v, x.isFinite = true) (v = ·) := by
  have each : ∀ x : Float32, Restores s 0 (.number (.single x)) single? (x.isFinite = true)
      (x = ·) := restores_single
  have restored := restores_list blank each v
  rw [List.forall₂_eq_eq_eq] at restored
  exact restored

theorem FlatIndex.restores_toJson (blank : s.Blank) (index : FlatIndex)
    (fits : index.dimension ≤ largestWord) :
    Restores s 3 index.toJson FlatIndex.ofJson? (FiniteVectors index.vectors) (index = ·) := by
  have restored := restores_list blank (Embedding.restores_toJson blank) index.vectors
  rw [List.forall₂_eq_eq_eq] at restored
  obtain ⟨w, reads, recovered⟩ := restored
  refine ⟨.object [("dimension", .ofNat index.dimension), ("normalized", .bool index.normalized),
    ("vectors", w)], ?_, ?_⟩
  · refine rereads_object blank ?_
    refine .cons ⟨rfl, rereads_ofNat fits⟩ ?_
    refine .cons ⟨rfl, rereads_bool index.normalized⟩ ?_
    exact .cons ⟨rfl, reads⟩ .nil
  · have decodes : FlatIndex.ofJson? (.object [("dimension", .ofNat index.dimension),
        ("normalized", .bool index.normalized), ("vectors", w)]) =
          (listOf? Embedding.ofJson? w).map fun vectors =>
            ⟨index.dimension, index.normalized, vectors⟩ := by
      cases found : listOf? Embedding.ofJson? w <;>
        simp [FlatIndex.ofJson?, record?, required?, nat_ofNat, bool?, found]
    rw [decodes]
    refine recovered.map _ ?_
    rintro _ rfl
    rfl

/-- A saved text decodes to the index if all components are finite, and has the wrong shape
otherwise. -/
theorem FlatIndex.ofText_toText (index : FlatIndex) (fits : index.dimension ≤ largestWord) :
    (FiniteVectors index.vectors ∧ FlatIndex.ofText index.toText = .ok index) ∨
    ¬ FiniteVectors index.vectors ∧ FlatIndex.ofText index.toText = .error .shape := by
  obtain ⟨w, reads, recovered⟩ := restores_toJson compactSpacing_blank index fits
  have text := ofText_toCompact reads (by decide)
  unfold FlatIndex.ofText FlatIndex.toText decodeText
  rw [text]
  dsimp only
  generalize FlatIndex.ofJson? w = found at recovered
  cases recovered with
  | decoded finite alike => exact .inl ⟨finite, alike ▸ rfl⟩
  | refused fails => exact .inr ⟨fails, rfl⟩

end Texts

theorem readPayload_of_text {α : Type} {files : FileTree} {path : Path} {text : String}
    (content : files.read path = .ok text.toUTF8) (decode : String → Except Json.Refusal α) :
    readPayload files path decode = (decode text).mapError .payload := by
  rw [readPayload, content]
  simp only [fromUTF8_toUTF8]
  cases decode text <;> rfl

theorem FlatIndex.load_toText (index : FlatIndex) {files : FileTree} {path : Path}
    (fits : index.dimension ≤ Json.largestWord)
    (fit : ∀ v ∈ index.vectors, v.length = index.dimension)
    (content : files.read path = .ok index.toText.toUTF8) :
    (FiniteVectors index.vectors ∧ FlatIndex.load files path = .ok index) ∨
    ¬ FiniteVectors index.vectors ∧ FlatIndex.load files path = .error (.payload .shape) := by
  unfold FlatIndex.load
  rw [readPayload_of_text content]
  rcases index.ofText_toText fits with ⟨finite, text⟩ | ⟨fails, text⟩
  · rw [text]
    refine .inl ⟨finite, ?_⟩
    simp only [Except.mapError, misfit_none fit]
  · rw [text]
    exact .inr ⟨fails, rfl⟩

/-! Calls on a builder -/

/-- A call that fills a builder. A dimension is a machine word. -/
inductive IndexCall where
  | start (dimension : UInt64)
  | add (first : Nat) (vectors : List Embedding)
  | optimize

namespace IndexCall

def apply (b : IndexBuilder) : IndexCall → IndexBuilder
  | start dimension => (IndexBuilder.start dimension.toNat).toOption.getD b
  | add first vectors => (b.add first vectors).toOption.getD b
  | optimize => b.optimize

def run (calls : List IndexCall) : IndexBuilder := calls.foldl apply {}

def scales : IndexCall → Bool
  | optimize => true
  | _ => false

def given (calls : List IndexCall) : List Embedding :=
  (run (calls.filter fun call => !call.scales)).vectors

end IndexCall

namespace IndexBuilder

structure Fitted (b : IndexBuilder) : Prop where
  word : ∀ dimension ∈ b.dimension, dimension ≤ Json.largestWord
  fit : ∀ dimension ∈ b.dimension, ∀ v ∈ b.vectors, v.length = dimension

theorem Fitted.start {b : IndexBuilder} (fitted : b.Fitted) (dimension : UInt64) :
    ((IndexBuilder.start dimension.toNat).toOption.getD b).Fitted := by
  unfold IndexBuilder.start
  split
  · exact fitted
  · refine ⟨?_, ?_⟩
    · rintro _ ⟨⟩
      have small := dimension.toNat_lt
      unfold Json.largestWord
      omega
    · intro _ _ v member
      cases member

theorem Fitted.add {b : IndexBuilder} (fitted : b.Fitted) (first : Nat)
    (vectors : List Embedding) : ((b.add first vectors).toOption.getD b).Fitted := by
  unfold IndexBuilder.add
  split
  · exact fitted
  · rename_i dimension started
    split
    · split
      · exact fitted
      · rename_i none_unfit
        refine ⟨fitted.word, ?_⟩
        intro dimension' same v member
        rcases List.mem_append.mp member with member | member
        · exact fitted.fit _ same v member
        · cases started.symm.trans same
          exact fit_of_misfit none_unfit v member
    · exact fitted

theorem Fitted.optimize {b : IndexBuilder} (fitted : b.Fitted) : b.optimize.Fitted := by
  refine ⟨fitted.word, ?_⟩
  intro dimension started v member
  obtain ⟨u, inside, rfl⟩ := List.mem_map.mp member
  rw [Embedding.length_normalize]
  exact fitted.fit dimension started u inside

theorem Fitted.apply {b : IndexBuilder} (fitted : b.Fitted) (call : IndexCall) :
    (call.apply b).Fitted := by
  cases call with
  | start dimension => exact fitted.start dimension
  | add first vectors => exact fitted.add first vectors
  | optimize => exact fitted.optimize

/-- After any calls all vectors have the dimension the builder was last started with. -/
theorem fitted_run (calls : List IndexCall) : (IndexCall.run calls).Fitted := by
  unfold IndexCall.run
  have empty : IndexBuilder.Fitted {} := by
    constructor <;> (intro dimension started; cases started)
  generalize ({} : IndexBuilder) = b at empty
  induction calls generalizing b with
  | nil => exact empty
  | cons call calls ih => exact ih _ (empty.apply call)

structure Alike (b c : IndexBuilder) : Prop where
  dimension : b.dimension = c.dimension
  length : b.vectors.length = c.vectors.length
  finite : FiniteVectors b.vectors ↔ FiniteVectors c.vectors

theorem finiteVectors_append (front back : List Embedding) :
    FiniteVectors (front ++ back) ↔ FiniteVectors front ∧ FiniteVectors back := by
  simp only [FiniteVectors, List.mem_append]
  constructor
  · intro all
    exact ⟨fun v member => all v (.inl member), fun v member => all v (.inr member)⟩
  · rintro ⟨first, second⟩ v (member | member)
    · exact first v member
    · exact second v member

theorem finiteVectors_normalize (vectors : List Embedding) :
    FiniteVectors (vectors.map Embedding.normalize) ↔ FiniteVectors vectors := by
  simp only [FiniteVectors, List.mem_map, forall_exists_index, and_imp,
    forall_apply_eq_imp_iff₂, Embedding.normalize_finite_iff]

theorem Alike.start {b c : IndexBuilder} (alike : b.Alike c) (dimension : UInt64) :
    ((IndexBuilder.start dimension.toNat).toOption.getD b).Alike
      ((IndexBuilder.start dimension.toNat).toOption.getD c) := by
  cases IndexBuilder.start dimension.toNat with
  | error fault => exact alike
  | ok started => exact ⟨rfl, rfl, Iff.rfl⟩

theorem Alike.add {b c : IndexBuilder} (alike : b.Alike c) (first : Nat)
    (vectors : List Embedding) :
    ((b.add first vectors).toOption.getD b).Alike ((c.add first vectors).toOption.getD c) := by
  unfold IndexBuilder.add
  rw [alike.dimension, alike.length]
  split
  · exact alike
  · split
    · split
      · exact alike
      · refine ⟨rfl, ?_, ?_⟩
        · change (b.vectors ++ vectors).length = (c.vectors ++ vectors).length
          rw [List.length_append, List.length_append, alike.length]
        · change FiniteVectors (b.vectors ++ vectors) ↔ FiniteVectors (c.vectors ++ vectors)
          rw [finiteVectors_append, finiteVectors_append, alike.finite]
    · exact alike

theorem Alike.optimize {b c : IndexBuilder} (alike : b.Alike c) : b.optimize.Alike c := by
  refine ⟨alike.dimension, ?_, ?_⟩
  · exact (List.length_map _).trans alike.length
  · exact (finiteVectors_normalize b.vectors).trans alike.finite

theorem alike_foldl {b c : IndexBuilder} (alike : b.Alike c) (calls : List IndexCall) :
    (calls.foldl IndexCall.apply b).Alike
      ((calls.filter fun call => !call.scales).foldl IndexCall.apply c) := by
  induction calls generalizing b c with
  | nil => exact alike
  | cons call calls ih =>
    cases call with
    | start dimension => exact ih (alike.start dimension)
    | add first vectors => exact ih (alike.add first vectors)
    | optimize => exact ih alike.optimize

theorem finiteVectors_run (calls : List IndexCall) :
    FiniteVectors (IndexCall.run calls).vectors ↔ FiniteVectors (IndexCall.given calls) :=
  (alike_foldl ⟨rfl, rfl, Iff.rfl⟩ calls).finite

end IndexBuilder

theorem load_saved_exactly {b : IndexBuilder} (fitted : b.Fitted) {path : Path}
    {files written : FileTree} (saved : b.save path files = (.ok (), written)) :
    ∃ dimension, b.dimension = some dimension ∧
      ((FiniteVectors b.vectors ∧
        FlatIndex.load written path = .ok ⟨dimension, b.normalized, b.vectors⟩) ∨
      ¬ FiniteVectors b.vectors ∧ FlatIndex.load written path = .error (.payload .shape)) := by
  cases started : b.dimension with
  | none =>
    rw [IndexBuilder.save, IndexBuilder.index, started] at saved
    cases saved
  | some dimension =>
    rcases b.save_cases path files started with ⟨fault, left, refused⟩ | ⟨made, after, same, write⟩
    · cases saved.symm.trans refused
    · cases saved.symm.trans same
      obtain ⟨d, rfl⟩ := FileTree.destination_of_write write
      exact ⟨dimension, rfl, FlatIndex.load_toText ⟨dimension, b.normalized, b.vectors⟩
        (fitted.word _ started) (fitted.fit _ started) (d.read_written _)⟩

theorem load_saved {b : IndexBuilder} (fitted : b.Fitted) {path : Path} {files written : FileTree}
    (saved : b.save path files = (.ok (), written)) :
    (FiniteVectors b.vectors ∧ ∃ index, FlatIndex.load written path = .ok index ∧
      b.dimension = some index.dimension ∧ index.normalized = b.normalized ∧
      index.vectors.length = b.vectors.length) ∨
    ¬ FiniteVectors b.vectors ∧ FlatIndex.load written path = .error (.payload .shape) := by
  obtain ⟨dimension, started, ⟨finite, loaded⟩ | refused⟩ := load_saved_exactly fitted saved
  · exact .inl ⟨finite, _, loaded, started, rfl, rfl⟩
  · exact .inr refused

/-- After any calls on a new builder, what was saved is loaded again with the dimension, the flag
and the number of vectors that the builder has, unless the builder was given a component that is
infinite or not a number: then the file is not taken for an index. -/
theorem saved_index_loads_exactly_if_finite (calls : List IndexCall) (path : Path)
    (files written : FileTree)
    (saved : (IndexCall.run calls).save path files = (.ok (), written)) :
    let b := IndexCall.run calls
    ((∃ index, FlatIndex.load written path = .ok index ∧ b.dimension = some index.dimension ∧
      index.normalized = b.normalized ∧ index.vectors.length = b.vectors.length) ↔
        FiniteVectors (IndexCall.given calls)) ∧
    (¬ FiniteVectors (IndexCall.given calls) →
      FlatIndex.load written path = .error (.payload .shape)) := by
  intro b
  rw [← IndexBuilder.finiteVectors_run calls]
  rcases load_saved (IndexBuilder.fitted_run calls) saved with
    ⟨finite, reloaded⟩ | ⟨fails, refused⟩
  · exact ⟨⟨fun _ => finite, fun _ => reloaded⟩, fun fails => absurd finite fails⟩
  · refine ⟨⟨?_, fun finite => absurd finite fails⟩, fun _ => refused⟩
    rintro ⟨index, loaded, -⟩
    cases refused.symm.trans loaded

/-- Three vectors in two dimensions are scaled, saved and loaded, one of them too long for its square
to be finite. -/
theorem scaled_vectors_reload :
    let calls : List IndexCall :=
      [.start 2, .add 0 [[3, 0], [0, 0]], .add 2 [[Float32.ofBits 0x7F000000, 1]], .optimize]
    let path := Path.ofString "nested/index.json"
    let saving := (IndexCall.run calls).save path {}
    saving.1 = .ok () ∧ FiniteVectors (IndexCall.given calls) ∧
      ∃ index, FlatIndex.load saving.2 path = .ok index ∧ index.dimension = 2 ∧
        index.normalized = true ∧ index.vectors.length = 3 := by
  intro calls path saving
  have saved : saving = (.ok (), saving.2) := rfl
  have finite : FiniteVectors (IndexCall.given calls) := by
    unfold FiniteVectors
    decide
  obtain ⟨index, loaded, dimension, normalized, length⟩ :=
    (saved_index_loads_exactly_if_finite calls path {} saving.2 saved).1.mpr finite
  exact ⟨rfl, finite, index, loaded, (Option.some.inj dimension).symm, normalized, length⟩

/-- An infinite component is saved without complaint and not loaded again. -/
theorem infinite_component_not_reloaded :
    let calls : List IndexCall := [.start 1, .add 0 [[Float32.ofBits 0x7F800000]]]
    let path := Path.ofString "index.json"
    let saving := (IndexCall.run calls).save path {}
    saving.1 = .ok () ∧ FlatIndex.load saving.2 path = .error (.payload .shape) := by
  intro calls path saving
  have saved : saving = (.ok (), saving.2) := rfl
  rcases load_saved (IndexBuilder.fitted_run calls) saved with ⟨finite, -⟩ | ⟨-, refused⟩
  · have infinite : (Float32.ofBits 0x7F800000).isFinite = false := by decide
    exact absurd (finite _ (.head _) _ (.head _)) (by simp [infinite])
  · exact ⟨rfl, refused⟩

/-! Components bit by bit -/

/-- After any calls on a new builder, what was saved while all components were finite is loaded with
the builder's dimension and flag, and with its components bit by bit. -/
theorem saved_components_load_bit_by_bit (calls : List IndexCall) (path : Path)
    (files written : FileTree)
    (saved : (IndexCall.run calls).save path files = (.ok (), written))
    (finite : FiniteVectors (IndexCall.run calls).vectors) :
    ∃ index, FlatIndex.load written path = .ok index ∧
      (IndexCall.run calls).dimension = some index.dimension ∧
      index.normalized = (IndexCall.run calls).normalized ∧
      index.vectors.map (·.map Float32.toBits) =
        (IndexCall.run calls).vectors.map (·.map Float32.toBits) := by
  obtain ⟨dimension, started, ⟨-, loaded⟩ | ⟨fails, -⟩⟩ :=
    load_saved_exactly (IndexBuilder.fitted_run calls) saved
  · exact ⟨_, loaded, started, rfl, rfl⟩
  · exact absurd finite fails

/-- Both zeros, the least component above zero, the largest without an exponent of its own, the
largest of all, and one whose decimal has its nearest double halfway to the next component. -/
theorem extreme_components_reload :
    let bits : List UInt32 := [0, 0x80000000, 1, 0x007FFFFF, 0x7F7FFFFF, 0x15AE43FD]
    let calls : List IndexCall := [.start 6, .add 0 [bits.map Float32.ofBits]]
    let path := Path.ofString "index.json"
    let saving := (IndexCall.run calls).save path {}
    saving.1 = .ok () ∧ FiniteVectors (IndexCall.run calls).vectors ∧
      ∃ index, FlatIndex.load saving.2 path = .ok index ∧ index.dimension = 6 ∧
        index.normalized = false ∧ index.vectors.map (·.map Float32.toBits) = [bits] := by
  intro bits calls path saving
  have saved : saving = (.ok (), saving.2) := rfl
  have finite : FiniteVectors (IndexCall.run calls).vectors := by
    unfold FiniteVectors
    decide
  obtain ⟨index, loaded, dimension, normalized, same⟩ :=
    saved_components_load_bit_by_bit calls path {} saving.2 saved finite
  have held : (IndexCall.run calls).vectors.map (·.map Float32.toBits) = [bits] := by decide
  exact ⟨rfl, finite, index, loaded, (Option.some.inj dimension).symm, normalized,
    same.trans held⟩

end CodeAtlas
