import CodeAtlas.Pipeline.Standard
import CodeAtlas.Proofs.Index.Building
import CodeAtlas.Proofs.Index.Scaling
import Mathlib.Data.List.DropRight

/-!
What a builder holds after any calls, read off the record of its calls: the dimension it was last
started with, the vectors accepted since then, each scaled once for every later scaling, and whether
anything was added since the last scaling. A call that fails leaves no trace, nor does saving.
-/
namespace CodeAtlas

/-- A call on the builder of a run. Other programs may have changed the files before it is saved. -/
inductive BuilderCall where
  | start (dimension : Nat)
  | add (first : Nat) (vectors : List Embedding)
  | optimize
  | save (files : FileTree)

variable {World : Type}

def BuilderCall.answer (services : Services (RunState World)) (state : RunState World) :
    BuilderCall → Except ServiceFault Unit × RunState World
  | start dimension => services.startIndex dimension state
  | add first vectors => services.addVectors first vectors state
  | optimize => services.optimizeIndex state
  | save files =>
    let saved := services.saveIndex { state with files := files }
    (saved.1.map fun _ => (), saved.2)

structure Answered where
  call : BuilderCall
  succeeded : Bool

namespace Answered

def started? : Answered → Option Nat
  | ⟨.start dimension, true⟩ => some dimension
  | _ => none

def accepted? : Answered → Option (List Embedding)
  | ⟨.add _ vectors, true⟩ => some vectors
  | _ => none

def scaled : Answered → Bool
  | ⟨.optimize, _⟩ => true
  | _ => false

end Answered

def BuilderCall.record (services : Services (RunState World)) (call : BuilderCall)
    (state : RunState World) : Answered × RunState World :=
  let answer := call.answer services state
  (⟨call, answer.1.isOk⟩, answer.2)

/-! What a record says -/

def lastStart? (log : List Answered) : Option Nat := log.reverse.findSome? Answered.started?

def sinceStart (log : List Answered) : List Answered :=
  log.rtakeWhile fun a => a.started?.isNone

/-- The vectors that were accepted, each scaled as often as a scaling came after it. -/
def accepted : List Answered → List Embedding
  | [] => []
  | a :: later =>
    (a.accepted?.getD []).map (Embedding.normalize^[later.countP Answered.scaled]) ++ accepted later

/-- A scaling came after the last start and the last addition that succeeded. -/
def EndsScaled (log : List Answered) : Prop :=
  ∃ front back, ∃ a : Answered, log = front ++ a :: back ∧ a.scaled = true ∧
    ∀ b ∈ back, b.started? = none ∧ b.accepted? = none

structure IndexBuilder.Remembers (log : List Answered) (b : IndexBuilder) : Prop where
  dimension : b.dimension = lastStart? log
  fit : ∀ v ∈ b.vectors, b.dimension = some v.length
  vectors : b.vectors = accepted (sinceStart log)
  normalized : b.normalized = true ↔ EndsScaled log

section Records

variable (log : List Answered) {a : Answered}

theorem lastStart_concat (a : Answered) :
    lastStart? (log ++ [a]) = a.started?.or (lastStart? log) := by
  rw [lastStart?, List.reverse_concat, List.findSome?_cons]
  cases a.started? <;> rfl

theorem sinceStart_started (started : a.started? ≠ none) : sinceStart (log ++ [a]) = [] :=
  List.rtakeWhile_concat_neg _ _ _ (by simpa using started)

theorem sinceStart_other (other : a.started? = none) :
    sinceStart (log ++ [a]) = sinceStart log ++ [a] :=
  List.rtakeWhile_concat_pos _ _ _ (by simp [other])

theorem accepted_concat (a : Answered) :
    accepted (log ++ [a]) =
      (if a.scaled then (accepted log).map Embedding.normalize else accepted log) ++
        a.accepted?.getD [] := by
  induction log with
  | nil => cases scaled : a.scaled <;> simp [accepted]
  | cons b log ih =>
    rw [List.cons_append, accepted, accepted, ih, List.countP_append, List.countP_singleton]
    cases scaled : a.scaled with
    | false => simp
    | true =>
      have once_more : Embedding.normalize^[log.countP Answered.scaled + 1] =
          Embedding.normalize ∘ Embedding.normalize^[log.countP Answered.scaled] :=
        Function.iterate_succ' _ _
      simp only [↓reduceIte, once_more, List.map_append, List.map_map,
        List.append_assoc]

theorem endsScaled_concat (a : Answered) : EndsScaled (log ++ [a]) ↔
    a.scaled = true ∨ a.started? = none ∧ a.accepted? = none ∧ EndsScaled log := by
  constructor
  · rintro ⟨front, back, scaling, whole, scaled, quiet⟩
    rcases List.eq_nil_or_concat' back with rfl | ⟨before, last, rfl⟩
    · obtain ⟨-, same⟩ := List.append_inj' whole rfl
      cases same
      exact .inl scaled
    · rw [← List.cons_append, ← List.append_assoc] at whole
      obtain ⟨rfl, same⟩ := List.append_inj' whole rfl
      cases same
      have own := quiet a (List.mem_append_right _ List.mem_cons_self)
      exact .inr ⟨own.1, own.2, front, before, scaling, rfl, scaled, fun b member =>
        quiet b (List.mem_append_left _ member)⟩
  · rintro (scaled | ⟨unstarted, unaccepted, front, back, scaling, rfl, scaled, quiet⟩)
    · exact ⟨log, [], a, rfl, scaled, fun _ member => nomatch member⟩
    · refine ⟨front, back ++ [a], scaling, by simp, scaled, ?_⟩
      intro b member
      rcases List.mem_append.mp member with member | member
      · exact quiet b member
      · rw [List.mem_singleton.mp member]
        exact ⟨unstarted, unaccepted⟩

end Records

/-! What one call does to a builder that remembers its record -/

namespace IndexBuilder

/-- A vector list is accepted by a builder that was started and has as many vectors as stand before
it, if all have its dimension. -/
def Accepts (b : IndexBuilder) (first : Nat) (vectors : List Embedding) : Prop :=
  ∃ dimension, b.dimension = some dimension ∧ first = b.vectors.length ∧
    ∀ v ∈ vectors, v.length = dimension

theorem add_cases (b : IndexBuilder) (first : Nat) (vectors : List Embedding) :
    (b.Accepts first vectors ∧
      b.add first vectors = .ok ⟨b.dimension, b.vectors ++ vectors, false⟩) ∨
    ¬ b.Accepts first vectors ∧ ∃ fault, b.add first vectors = .error fault := by
  obtain ⟨dimension?, prior, normalized⟩ := b
  unfold add
  cases dimension? with
  | none => exact .inr ⟨fun ⟨_, started, _⟩ => (nomatch started), _, rfl⟩
  | some dimension =>
    dsimp only
    by_cases next : first = prior.length
    · rw [if_pos next]
      cases unfit : FlatIndex.misfit? dimension vectors with
      | none => exact .inl ⟨⟨dimension, rfl, next, fit_of_misfit unfit⟩, rfl⟩
      | some length =>
        refine .inr ⟨?_, _, rfl⟩
        rintro ⟨_, ⟨⟩, -, fit⟩
        exact nomatch (misfit_none fit).symm.trans unfit
    · rw [if_neg next]
      exact .inr ⟨fun ⟨_, _, same, _⟩ => next same, _, rfl⟩

variable {log : List Answered} {b : IndexBuilder}

theorem remembers_new : Remembers [] {} where
  dimension := rfl
  fit := fun _ member => nomatch member
  vectors := rfl
  normalized := by
    refine ⟨fun scaled => (nomatch scaled), ?_⟩
    rintro ⟨front, back, a, whole, -⟩
    exact absurd whole (by simp)

theorem Remembers.idle (remembers : b.Remembers log) {a : Answered} (unstarted : a.started? = none)
    (unaccepted : a.accepted? = none) (unscaled : a.scaled = false) :
    b.Remembers (log ++ [a]) where
  dimension := by
    rw [lastStart_concat, unstarted]
    exact remembers.dimension
  fit := remembers.fit
  vectors := by
    rw [sinceStart_other log unstarted, accepted_concat, unaccepted, unscaled]
    simpa using remembers.vectors
  normalized := by
    rw [endsScaled_concat, unstarted, unaccepted, unscaled]
    simpa using remembers.normalized

theorem Remembers.start (log : List Answered) (dimension : Nat) :
    Remembers (log ++ [⟨.start dimension, true⟩]) { dimension := some dimension } where
  dimension := by
    rw [lastStart_concat]
    rfl
  fit := fun _ member => nomatch member
  vectors := by
    have started : Answered.started? ⟨.start dimension, true⟩ ≠ none := Option.some_ne_none dimension
    rw [sinceStart_started log started]
    rfl
  normalized := by
    rw [endsScaled_concat]
    simp [Answered.scaled, Answered.started?]

theorem Remembers.add (remembers : b.Remembers log) {first : Nat} {vectors : List Embedding}
    (accepts : b.Accepts first vectors) :
    Remembers (log ++ [⟨.add first vectors, true⟩]) ⟨b.dimension, b.vectors ++ vectors, false⟩ where
  dimension := by
    rw [lastStart_concat]
    exact remembers.dimension
  fit := by
    obtain ⟨dimension, started, -, fit⟩ := accepts
    intro v member
    rcases List.mem_append.mp member with member | member
    · exact remembers.fit v member
    · rw [fit v member]
      exact started
  vectors := by
    rw [sinceStart_other log rfl, accepted_concat, ← remembers.vectors]
    rfl
  normalized := by
    rw [endsScaled_concat]
    simp [Answered.scaled, Answered.accepted?]

theorem Remembers.optimize (remembers : b.Remembers log) :
    b.optimize.Remembers (log ++ [⟨.optimize, true⟩]) where
  dimension := by
    rw [lastStart_concat]
    exact remembers.dimension
  fit := by
    intro v member
    obtain ⟨u, inside, rfl⟩ := List.mem_map.mp member
    rw [Embedding.length_normalize]
    exact remembers.fit u inside
  vectors := by
    rw [sinceStart_other log rfl, accepted_concat, ← remembers.vectors]
    exact (List.append_nil _).symm
  normalized := by
    rw [endsScaled_concat]
    exact ⟨fun _ => .inl rfl, fun _ => rfl⟩

end IndexBuilder

inductive CallEnds (b : IndexBuilder) :
    BuilderCall → Except ServiceFault Unit → IndexBuilder → Prop
  | unstarted {fault : ServiceFault} : CallEnds b (.start 0) (.error fault) b
  | started {dimension : Nat} (positive : dimension ≠ 0) :
      CallEnds b (.start dimension) (.ok ()) { dimension := some dimension }
  | refused {first : Nat} {vectors : List Embedding} {fault : ServiceFault}
      (unfit : ¬ b.Accepts first vectors) : CallEnds b (.add first vectors) (.error fault) b
  | added {first : Nat} {vectors : List Embedding} (accepts : b.Accepts first vectors) :
      CallEnds b (.add first vectors) (.ok ()) ⟨b.dimension, b.vectors ++ vectors, false⟩
  | scaled : CallEnds b .optimize (.ok ()) b.optimize
  | unsaved {files : FileTree} {fault : ServiceFault} : CallEnds b (.save files) (.error fault) b
  | saved {files : FileTree} (started : b.dimension ≠ none) : CallEnds b (.save files) (.ok ()) b

namespace CallEnds

variable {b after : IndexBuilder} {outcome : Except ServiceFault Unit}

theorem kept {call : BuilderCall} (ends : CallEnds b call outcome after)
    (failed : outcome.isOk = false) : after = b := by
  cases ends with
  | unstarted | refused | unsaved | saved => rfl
  | started | added | scaled => cases failed

theorem accepts_iff {first : Nat} {vectors : List Embedding}
    (ends : CallEnds b (.add first vectors) outcome after) :
    outcome.isOk = true ↔ b.Accepts first vectors := by
  cases ends with
  | refused unfit => exact ⟨fun ok => (nomatch ok), fun accepts => absurd accepts unfit⟩
  | added accepts => exact ⟨fun _ => accepts, fun _ => rfl⟩

theorem of_save {files : FileTree} (ends : CallEnds b (.save files) outcome after) :
    after = b ∧ (b.dimension = none → outcome.isOk = false) := by
  cases ends with
  | unsaved => exact ⟨rfl, fun _ => rfl⟩
  | saved started => exact ⟨rfl, fun never => absurd never started⟩

end CallEnds

section Runs

variable (e : Enricher World) (v : Vectorizer World) (path : Path) (wait : Nat → World → World)

theorem call_ends (call : BuilderCall) (state : RunState World) :
    CallEnds state.builder call (call.answer (.standard e v path wait) state).1
      (call.answer (.standard e v path wait) state).2.builder := by
  cases call with
  | start dimension =>
    simp only [BuilderCall.answer, Services.standard, IndexBuilder.start]
    split
    · rename_i zero
      rw [zero]
      exact .unstarted
    · rename_i positive
      exact .started positive
  | add first vectors =>
    simp only [BuilderCall.answer, Services.standard]
    rcases state.builder.add_cases first vectors with ⟨accepts, added⟩ | ⟨unfit, fault, refused⟩
    · rw [added]
      exact .added accepts
    · rw [refused]
      exact .refused unfit
  | optimize => exact .scaled
  | save files =>
    simp only [BuilderCall.answer, Services.standard, RunState.saveIndex]
    cases started : state.builder.dimension with
    | none =>
      rw [IndexBuilder.save, IndexBuilder.index, started]
      exact .unsaved
    | some dimension =>
      have ready : state.builder.dimension ≠ none := started ▸ Option.some_ne_none dimension
      rcases state.builder.save_cases path files started with
        ⟨fault, left, failed⟩ | ⟨_, written, saved, -⟩
      · rw [failed]
        exact .unsaved
      · rw [saved]
        exact .saved ready

theorem record_remembers (call : BuilderCall) {log : List Answered} {state : RunState World}
    (remembers : state.builder.Remembers log) :
    (call.record (.standard e v path wait) state).2.builder.Remembers
      (log ++ [(call.record (.standard e v path wait) state).1]) := by
  have ends := call_ends e v path wait call state
  simp only [BuilderCall.record]
  generalize call.answer (.standard e v path wait) state = answer at ends
  obtain ⟨outcome, after⟩ := answer
  dsimp only at ends ⊢
  generalize after.builder = b at ends
  cases ends with
  | unstarted | refused | unsaved => exact remembers.idle rfl rfl rfl
  | started => exact .start log _
  | added accepts => exact remembers.add accepts
  | scaled => exact remembers.optimize
  | saved => exact remembers.idle rfl rfl rfl

theorem records_remember (calls : List BuilderCall) {log : List Answered} {state : RunState World}
    (remembers : state.builder.Remembers log) :
    (inOrder (BuilderCall.record (.standard e v path wait)) calls state).2.builder.Remembers
      (log ++ (inOrder (BuilderCall.record (.standard e v path wait)) calls state).1) := by
  induction calls generalizing log state with
  | nil => simpa [inOrder] using remembers
  | cons call calls ih =>
    have next := ih (record_remembers e v path wait call remembers)
    rwa [List.append_assoc] at next

theorem record_calls (services : Services (RunState World)) (calls : List BuilderCall)
    (state : RunState World) :
    (inOrder (BuilderCall.record services) calls state).1.map Answered.call = calls := by
  induction calls generalizing state with
  | nil => rfl
  | cons call calls ih => exact congrArg (call :: ·) (ih _)

/-- After any calls on a new builder it holds what the record of its calls says. A further call that
fails leaves it as it is, and so does saving, which fails for a builder no start of which succeeded;
vectors are accepted if the builder was started, they come next and all have its dimension. -/
theorem builder_holds_what_was_recorded (calls : List BuilderCall) (state : RunState World) :
    let services := Services.standard e v path wait
    let done := inOrder (BuilderCall.record services) calls { state with builder := {} }
    let b := done.2.builder
    done.1.map Answered.call = calls ∧ b.Remembers done.1 ∧
      (∀ call : BuilderCall, (call.answer services done.2).1.isOk = false →
        (call.answer services done.2).2.builder = b) ∧
      (∀ first vectors,
        ((BuilderCall.add first vectors).answer services done.2).1.isOk = true ↔
          b.Accepts first vectors) ∧
      ∀ files, ((BuilderCall.save files).answer services done.2).2.builder = b ∧
        (lastStart? done.1 = none →
          ((BuilderCall.save files).answer services done.2).1.isOk = false) := by
  intro services done b
  have new : ({ state with builder := {} } : RunState World).builder.Remembers [] :=
    IndexBuilder.remembers_new
  have remembers : b.Remembers done.1 := records_remember e v path wait calls new
  have ends (call : BuilderCall) := call_ends e v path wait call done.2
  refine ⟨record_calls services calls _, remembers, ?_, ?_, ?_⟩
  · intro call failed
    exact (ends call).kept failed
  · intro first vectors
    exact (ends (.add first vectors)).accepts_iff
  · intro files
    have saving := (ends (.save files)).of_save
    exact ⟨saving.1, fun never => saving.2 (remembers.dimension.trans never)⟩

end Runs
end CodeAtlas
