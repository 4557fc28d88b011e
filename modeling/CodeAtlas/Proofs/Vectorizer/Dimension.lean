import CodeAtlas.Pipeline.Services
import CodeAtlas.Proofs.Index.Building
import CodeAtlas.Vectorizer

/-!
How a vectorizer comes by its dimension, over any calls. Attempts that fail leave it without one and
cost a probe each; the first that succeeds fixes it, and from then on the provider is asked for
nothing but the vectors of texts.
-/
namespace CodeAtlas

inductive Exchange where
  | chat (messages : List Message) (answer : Except ProviderFault String)
  | embed (texts : List String) (answer : Except ProviderFault (List Embedding))

variable {World : Type}

def Provider.recorded (p : Provider World) : Provider (World × List Exchange) where
  name := p.name
  embeds := p.embeds
  chat messages state :=
    let answer := p.chat messages state.1
    (answer.1, answer.2, state.2 ++ [.chat messages answer.1])
  embed texts state :=
    let answer := p.embed texts state.1
    (answer.1, answer.2, state.2 ++ [.embed texts answer.1])

inductive VectorizerCall where
  | start
  | embed (texts : List String)

inductive VectorizerReply where
  | dimension (dimension : Nat)
  | vectors (vectors : List Embedding)

def VectorizerCall.answer (v : Vectorizer World) (state : VectorizerState World) :
    VectorizerCall → Except ServiceFault VectorizerReply × VectorizerState World
  | start => ((v.start state).1.map .dimension, (v.start state).2)
  | embed texts => ((v.embed texts state).1.map .vectors, (v.embed texts state).2)

structure VectorizerRecord where
  call : VectorizerCall
  answer : Except ServiceFault VectorizerReply
  exchanges : List Exchange
  fixed : Option Nat

namespace Vectorizer

variable (v : Vectorizer World)

def recorded : Vectorizer (World × List Exchange) := ⟨v.provider.recorded, v.configured⟩

def record (call : VectorizerCall) (state : VectorizerState World) :
    VectorizerRecord × VectorizerState World :=
  let done := call.answer v.recorded ⟨state.dimension, state.world, []⟩
  (⟨call, done.1, done.2.world.2, done.2.dimension⟩, ⟨done.2.dimension, done.2.world.1⟩)

/-! What records say -/

def Attempts (exchanges : List Exchange) : Prop :=
  if v.provider.embeds = true ∧ v.configured = none then
    ∃ answer, exchanges = [.embed [probeText] answer]
  else exchanges = []

def Finds (exchanges : List Exchange) (dimension : Nat) : Prop :=
  v.configured = some dimension ∨
    v.configured = none ∧ 0 < dimension ∧ ∃ vector others,
      exchanges = [.embed [probeText] (.ok (vector :: others))] ∧ vector.length = dimension

structure Waits (r : VectorizerRecord) : Prop where
  unfixed : r.fixed = none
  failed : ∃ fault, r.answer = .error fault
  attempts : v.Attempts r.exchanges

inductive Serves (dimension : Nat) :
    VectorizerCall → Except ServiceFault VectorizerReply → List Exchange → Prop
  | start : Serves dimension .start (.ok (.dimension dimension)) []
  | nothing : Serves dimension (.embed []) (.ok (.vectors [])) []
  | failed {texts : List String} {fault : ProviderFault} (some_text : texts ≠ []) :
      Serves dimension (.embed texts) (.error (.provider fault)) [.embed texts (.error fault)]
  | refused {texts : List String} {vectors : List Embedding} {fault : ServiceFault}
      (some_text : texts ≠ [])
      (unfit : ¬ (vectors.length = texts.length ∧ ∀ v ∈ vectors, v.length = dimension)) :
      Serves dimension (.embed texts) (.error fault) [.embed texts (.ok vectors)]
  | served {texts : List String} {vectors : List Embedding} (some_text : texts ≠ [])
      (count : vectors.length = texts.length) (fit : ∀ v ∈ vectors, v.length = dimension) :
      Serves dimension (.embed texts) (.ok (.vectors vectors)) [.embed texts (.ok vectors)]

structure Keeps (dimension : Nat) (r : VectorizerRecord) : Prop where
  fixed : r.fixed = some dimension
  serves : Serves dimension r.call r.answer r.exchanges

structure Fixes (dimension : Nat) (r : VectorizerRecord) : Prop where
  fixed : r.fixed = some dimension
  asked : ∃ attempts exchanges, r.exchanges = attempts ++ exchanges ∧ v.Attempts attempts ∧
    v.Finds attempts dimension ∧ Serves dimension r.call r.answer exchanges

section Attempts

variable {v} (world : World)

theorem probe_of_unsupported (unsupported : v.provider.embeds = false) :
    v.probe world = (.error (.provider (.embeddingUnsupported v.provider.name)), world) := by
  simp [probe, unsupported]

theorem probe_of_configured (supported : v.provider.embeds = true) {dimension : Nat}
    (configured : v.configured = some dimension) : v.probe world = (.ok dimension, world) := by
  simp [probe, supported, configured]

def probed (v : Vectorizer World) :
    Except ProviderFault (List Embedding) → Except ServiceFault Nat
  | .ok vectors => probedDimension v.provider.name vectors
  | .error fault => .error (.provider fault)

theorem probe_of_asked (supported : v.provider.embeds = true) (unset : v.configured = none) :
    v.probe world = (v.probed (v.provider.embed [probeText] world).1,
      (v.provider.embed [probeText] world).2) := by
  unfold probe
  rw [if_pos supported, unset]
  dsimp only
  generalize v.provider.embed [probeText] world = answer
  obtain ⟨_ | vectors, after⟩ := answer <;> rfl

theorem vector_of_probed {answer : Except ProviderFault (List Embedding)} {dimension : Nat}
    (found : v.probed answer = .ok dimension) :
    0 < dimension ∧ ∃ vector others, answer = .ok (vector :: others) ∧
      vector.length = dimension := by
  cases answer with
  | error fault => cases found
  | ok vectors =>
    simp only [probed, probedDimension] at found
    split at found
    · rename_i x rest others
      cases found
      exact ⟨Nat.succ_pos _, x :: rest, others, rfl, rfl⟩
    · cases found

variable (v)

theorem probe_recorded (log : List Exchange) :
    ∃ attempts, v.Attempts attempts ∧
      v.recorded.probe (world, log) =
        ((v.probe world).1, (v.probe world).2, log ++ attempts) ∧
      ∀ dimension, (v.probe world).1 = .ok dimension → v.Finds attempts dimension := by
  cases supported : v.provider.embeds with
  | false =>
    have plain := probe_of_unsupported world supported
    have noted := probe_of_unsupported (v := v.recorded) (world, log) supported
    refine ⟨[], by simp [Attempts, supported], ?_, ?_⟩
    · rw [plain, noted, List.append_nil]
      rfl
    · intro dimension found
      rw [plain] at found
      cases found
  | true =>
    cases configured : v.configured with
    | some given =>
      have plain := probe_of_configured world supported configured
      have noted := probe_of_configured (v := v.recorded) (world, log) supported configured
      refine ⟨[], by simp [Attempts, configured], ?_, ?_⟩
      · rw [plain, noted, List.append_nil]
      · intro dimension found
        rw [plain] at found
        cases found
        exact .inl configured
    | none =>
      have plain := probe_of_asked world supported configured
      have noted := probe_of_asked (v := v.recorded) (world, log) supported configured
      refine ⟨[.embed [probeText] (v.provider.embed [probeText] world).1],
        by simp [Attempts, supported, configured], ?_, ?_⟩
      · rw [plain, noted]
        rfl
      · intro dimension found
        rw [plain] at found
        obtain ⟨positive, vector, others, answered, length⟩ := vector_of_probed found
        exact .inr ⟨configured, positive, vector, others, by rw [answered], length⟩

end Attempts

section Calls

theorem start_of_fixed {state : VectorizerState World} {dimension : Nat}
    (fixed : state.dimension = some dimension) : v.start state = (.ok dimension, state) := by
  rw [start, fixed]

/-- An attempt that fails leaves no dimension, one that succeeds fixes what it found. -/
theorem start_recorded (world : World) (log : List Exchange) :
    ∃ attempts after, v.Attempts attempts ∧
      ((∃ fault, v.start ⟨none, world⟩ = (.error fault, ⟨none, after⟩) ∧
        v.recorded.start ⟨none, world, log⟩ = (.error fault, ⟨none, after, log ++ attempts⟩)) ∨
      ∃ dimension, v.start ⟨none, world⟩ = (.ok dimension, ⟨some dimension, after⟩) ∧
        v.recorded.start ⟨none, world, log⟩ =
          (.ok dimension, ⟨some dimension, after, log ++ attempts⟩) ∧
        v.Finds attempts dimension) := by
  obtain ⟨attempts, asked, noted, finds⟩ := v.probe_recorded world log
  refine ⟨attempts, (v.probe world).2, asked, ?_⟩
  unfold start
  dsimp only
  rw [noted]
  generalize v.probe world = answer at finds
  obtain ⟨fault | dimension, after⟩ := answer
  · exact .inl ⟨fault, rfl, rfl⟩
  · exact .inr ⟨dimension, rfl, rfl, finds dimension rfl⟩

theorem answer_of_fault {state after : VectorizerState World} {fault : ServiceFault}
    (failed : v.start state = (.error fault, after)) (call : VectorizerCall) :
    call.answer v state = (.error fault, after) := by
  cases call with
  | start =>
    rw [VectorizerCall.answer, failed]
    rfl
  | embed texts =>
    rw [VectorizerCall.answer, embed, failed]
    rfl

theorem answer_of_started {state after : VectorizerState World} {dimension : Nat}
    (started : v.start state = (.ok dimension, after)) (fixed : after.dimension = some dimension)
    (call : VectorizerCall) : call.answer v state = call.answer v after := by
  have again := v.start_of_fixed fixed
  cases call with
  | start => rw [VectorizerCall.answer, VectorizerCall.answer, started, again]
  | embed texts => rw [VectorizerCall.answer, VectorizerCall.answer, embed, embed, started, again]

theorem checked_cases (count dimension : Nat) (vectors : List Embedding) :
    (checked count dimension vectors = .ok vectors ∧ vectors.length = count ∧
      ∀ v ∈ vectors, v.length = dimension) ∨
    ∃ fault, checked count dimension vectors = .error fault ∧
      ¬ (vectors.length = count ∧ ∀ v ∈ vectors, v.length = dimension) := by
  unfold checked
  by_cases complete : vectors.length = count
  · rw [if_pos complete]
    cases unfit : FlatIndex.misfit? dimension vectors with
    | none => exact .inl ⟨rfl, complete, fit_of_misfit unfit⟩
    | some length =>
      refine .inr ⟨_, rfl, ?_⟩
      rintro ⟨-, fit⟩
      rw [misfit_none fit] at unfit
      cases unfit
  · rw [if_neg complete]
    exact .inr ⟨_, rfl, fun both => complete both.1⟩

/-- At a fixed dimension only texts are sent to the provider, and what it returns is checked. -/
theorem embed_of_fixed (dimension : Nat) (world : World) {texts : List String}
    (some_text : texts ≠ []) :
    v.embed texts ⟨some dimension, world⟩ =
      match v.provider.embed texts world with
      | (.error fault, after) => (.error (.provider fault), ⟨some dimension, after⟩)
      | (.ok vectors, after) =>
        (checked texts.length dimension vectors, ⟨some dimension, after⟩) := by
  have texted : texts.isEmpty = false := by simpa using some_text
  rw [embed, v.start_of_fixed rfl]
  simp only [texted]
  rfl

theorem answer_recorded (dimension : Nat) (world : World) (log : List Exchange)
    (call : VectorizerCall) :
    ∃ answer exchanges after, Serves dimension call answer exchanges ∧
      call.answer v ⟨some dimension, world⟩ = (answer, ⟨some dimension, after⟩) ∧
      call.answer v.recorded ⟨some dimension, world, log⟩ =
        (answer, ⟨some dimension, after, log ++ exchanges⟩) := by
  cases call with
  | start =>
    refine ⟨_, [], world, .start, rfl, ?_⟩
    rw [List.append_nil]
    rfl
  | embed texts =>
    by_cases empty : texts = []
    · subst empty
      refine ⟨_, [], world, .nothing, rfl, ?_⟩
      rw [List.append_nil]
      rfl
    · have plain := v.embed_of_fixed dimension world empty
      have noted := v.recorded.embed_of_fixed dimension (world, log) empty
      simp only [Vectorizer.recorded, Provider.recorded] at noted
      rw [VectorizerCall.answer, VectorizerCall.answer, plain]
      simp only [recorded, Provider.recorded]
      rw [noted]
      generalize v.provider.embed texts world = returned
      obtain ⟨fault | vectors, after⟩ := returned
      · exact ⟨_, _, after, .failed empty, rfl, rfl⟩
      · rcases checked_cases texts.length dimension vectors with
          ⟨passed, count, fit⟩ | ⟨fault, refused, unfit⟩
        · dsimp only
          rw [passed]
          exact ⟨_, _, after, .served empty count fit, rfl, rfl⟩
        · dsimp only
          rw [refused]
          exact ⟨_, _, after, .refused empty unfit, rfl, rfl⟩

/-! Records of calls, one after the other -/

theorem record_of_fixed (dimension : Nat) (world : World) (call : VectorizerCall) :
    ∃ r after, v.record call ⟨some dimension, world⟩ = (r, ⟨some dimension, after⟩) ∧
      call.answer v ⟨some dimension, world⟩ = (r.answer, ⟨some dimension, after⟩) ∧
      r.call = call ∧ Keeps dimension r := by
  obtain ⟨answer, exchanges, after, serves, plain, noted⟩ := v.answer_recorded dimension world [] call
  refine ⟨⟨call, answer, exchanges, some dimension⟩, after, ?_, plain, rfl, rfl, serves⟩
  rw [record, noted]
  rfl

/-- A call without a dimension waits, or fixes one. -/
theorem record_of_unfixed (world : World) (call : VectorizerCall) :
    ∃ r after, v.record call ⟨none, world⟩ = (r, ⟨r.fixed, after⟩) ∧
      call.answer v ⟨none, world⟩ = (r.answer, ⟨r.fixed, after⟩) ∧
      r.call = call ∧ (v.Waits r ∨ ∃ dimension, v.Fixes dimension r) := by
  obtain ⟨attempts, found, asked, ⟨fault, plain, noted⟩ | ⟨dimension, plain, noted, finds⟩⟩ :=
    v.start_recorded world []
  · refine ⟨⟨call, .error fault, attempts, none⟩, found, ?_, v.answer_of_fault plain call, rfl,
      .inl ⟨rfl, ⟨fault, rfl⟩, asked⟩⟩
    rw [record, v.recorded.answer_of_fault noted call]
    rfl
  · obtain ⟨answer, exchanges, after, serves, settled, logged⟩ :=
      v.answer_recorded dimension found attempts call
    refine ⟨⟨call, answer, attempts ++ exchanges, some dimension⟩, after, ?_, ?_, rfl,
      .inr ⟨dimension, rfl, attempts, exchanges, rfl, asked, finds, serves⟩⟩
    · rw [record, v.recorded.answer_of_started noted rfl call, List.nil_append, logged]
    · rw [v.answer_of_started plain rfl call, settled]

theorem records_of_fixed (dimension : Nat) (calls : List VectorizerCall) (world : World) :
    ∃ log after, inOrder v.record calls ⟨some dimension, world⟩ = (log, ⟨some dimension, after⟩) ∧
      inOrder (fun call state => call.answer v state) calls ⟨some dimension, world⟩ =
        (log.map VectorizerRecord.answer, ⟨some dimension, after⟩) ∧
      log.map VectorizerRecord.call = calls ∧ ∀ r ∈ log, Keeps dimension r := by
  induction calls generalizing world with
  | nil => exact ⟨[], world, rfl, rfl, rfl, fun _ member => nomatch member⟩
  | cons call calls ih =>
    obtain ⟨r, next, recorded, plain, same, keeps⟩ := v.record_of_fixed dimension world call
    obtain ⟨log, after, later, plainly, others, all⟩ := ih next
    refine ⟨r :: log, after, ?_, ?_, ?_, ?_⟩
    · rw [inOrder, recorded, later]
    · rw [inOrder, plain, plainly]
      rfl
    · rw [List.map_cons, same, others]
    · exact List.forall_mem_cons.mpr ⟨keeps, all⟩

/-- Calls wait for a dimension until one fixes it for all that come after it. -/
def Settles (log : List VectorizerRecord) : Prop :=
  ∃ waiting settled, log = waiting ++ settled ∧ (∀ r ∈ waiting, v.Waits r) ∧
    (settled = [] ∨ ∃ dimension first later, settled = first :: later ∧
      v.Fixes dimension first ∧ ∀ r ∈ later, Keeps dimension r)

theorem Settles.cons {log : List VectorizerRecord} (settles : v.Settles log)
    {r : VectorizerRecord} (waits : v.Waits r) : v.Settles (r :: log) := by
  obtain ⟨waiting, settled, whole, all, fixed⟩ := settles
  exact ⟨r :: waiting, settled, by rw [whole, List.cons_append],
    List.forall_mem_cons.mpr ⟨waits, all⟩, fixed⟩

/-- On a new vectorizer the first call that finds a dimension fixes it for all that come after it.
Only an attempt to find it sends a probe, unless the dimension is configured, and the vectors that are
handed out have it, one for each text. Recording changes nothing. -/
theorem dimension_fixed_by_first_success (calls : List VectorizerCall) (world : World) :
    let done := inOrder v.record calls ⟨none, world⟩
    done.1.map VectorizerRecord.call = calls ∧
      inOrder (fun call state => call.answer v state) calls ⟨none, world⟩ =
        (done.1.map VectorizerRecord.answer, done.2) ∧
      v.Settles done.1 := by
  induction calls generalizing world with
  | nil => exact ⟨rfl, rfl, [], [], rfl, fun _ member => (nomatch member), .inl rfl⟩
  | cons call calls ih =>
    obtain ⟨r, next, recorded, plain, same, waits | ⟨dimension, fixes⟩⟩ :=
      v.record_of_unfixed world call
    · rw [waits.unfixed] at recorded plain
      obtain ⟨others, plainly, settles⟩ := ih next
      rw [inOrder, inOrder, recorded, plain]
      refine ⟨?_, ?_, Settles.cons v settles waits⟩
      · rw [List.map_cons, same, others]
      · rw [plainly]
        rfl
    · rw [fixes.fixed] at recorded plain
      obtain ⟨log, after, later, plainly, others, keep⟩ := v.records_of_fixed dimension calls next
      rw [inOrder, inOrder, recorded, plain, later]
      refine ⟨?_, ?_, [], r :: log, rfl, fun _ member => (nomatch member),
        .inr ⟨dimension, r, log, rfl, fixes, keep⟩⟩
      · rw [List.map_cons, same, others]
      · rw [plainly]
        rfl

end Calls

end Vectorizer
end CodeAtlas
