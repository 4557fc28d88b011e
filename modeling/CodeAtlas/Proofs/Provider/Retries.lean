import CodeAtlas.Provider.OpenAi
import Mathlib.Data.List.TakeWhile

/-!
Requests that are refused because there are too many. Against a server that answers every request, a
request is sent until an answer does not refuse it, but once more than there are retries at most; a
client takes whatever comes of it and sends nothing again.
-/
namespace CodeAtlas

def HttpResponse.refuses (r : HttpResponse) : Bool := r.status == 429

/-- The answers a server has left, what it was asked for, and how long was waited in between. -/
structure Server where
  answers : List HttpResponse
  requests : List HttpRequest := []
  waits : List Nat := []

namespace Server

/-- A server gives its answers one after the other, whatever it is asked for. With none left it cannot
be reached. -/
def connection : Connection Server where
  send request server :=
    (server.answers.head?,
      { server with
        answers := server.answers.tail
        requests := server.requests ++ [request] })
  notify _ server := server
  wait seconds server := { server with waits := server.waits ++ [seconds] }

def refusals (answers : List HttpResponse) : Nat := (answers.takeWhile (·.refuses)).length

end Server

namespace RetryPolicy

open Server

variable (p : RetryPolicy) (provider : String) (request : HttpRequest)

/-- How long is waited after each of these answers, the first of which belongs to this attempt. -/
def pauses (first : Nat) (refused : List HttpResponse) : List Nat :=
  refused.mapIdx fun i r => p.delay (r.header? "retry-after") (first + i)

theorem pauses_cons (first : Nat) (r : HttpResponse) (rest : List HttpResponse) :
    p.pauses first (r :: rest) =
      p.delay (r.header? "retry-after") first :: p.pauses (first + 1) rest := by
  simp only [pauses, List.mapIdx_cons, Nat.add_zero, Nat.add_assoc, Nat.add_comm 1]

def IsServed (answers : List HttpResponse) : Prop :=
  min (refusals answers) p.maxRetries < answers.length

instance (answers : List HttpResponse) : Decidable (p.IsServed answers) :=
  inferInstanceAs (Decidable (_ < _))

/-! One attempt -/

section Attempt

variable {r : HttpResponse} (later : List HttpResponse) (requests : List HttpRequest)
  (waits : List Nat)

theorem sendFrom_accepted (accepts : r.refuses = false) (retries : Nat) :
    p.sendFrom provider connection request retries ⟨r :: later, requests, waits⟩ =
      (.ok r, ⟨later, requests ++ [request], waits⟩) := by
  have other : r.status ≠ 429 := by simpa [HttpResponse.refuses] using accepts
  cases retries <;> simp [sendFrom, connection, other]

theorem sendFrom_given_up (refuses : r.refuses = true) :
    p.sendFrom provider connection request 0 ⟨r :: later, requests, waits⟩ =
      (.error .rateLimited, ⟨later, requests ++ [request], waits⟩) := by
  have refused : r.status = 429 := by simpa [HttpResponse.refuses] using refuses
  simp [sendFrom, connection, refused]

theorem sendFrom_refused (refuses : r.refuses = true) (left : Nat) :
    p.sendFrom provider connection request (left + 1) ⟨r :: later, requests, waits⟩ =
      p.sendFrom provider connection request left
        ⟨later, requests ++ [request],
          waits ++ [p.delay (r.header? "retry-after") (p.maxRetries - (left + 1))]⟩ := by
  have refused : r.status = 429 := by simpa [HttpResponse.refuses] using refuses
  rw [sendFrom]
  simp [connection, refused]

end Attempt

/-! All attempts, by the answers that refuse -/

theorem sendFrom_answered {refused : List HttpResponse} (all : ∀ r ∈ refused, r.refuses = true)
    {answer : HttpResponse} (accepts : answer.refuses = false) (later : List HttpResponse)
    {retries : Nat} (enough : refused.length ≤ retries) (within : retries ≤ p.maxRetries)
    (requests : List HttpRequest) (waits : List Nat) :
    p.sendFrom provider connection request retries ⟨refused ++ answer :: later, requests, waits⟩ =
      (.ok answer, ⟨later, requests ++ List.replicate (refused.length + 1) request,
        waits ++ p.pauses (p.maxRetries - retries) refused⟩) := by
  induction refused generalizing retries requests waits with
  | nil =>
    simpa [pauses] using p.sendFrom_accepted provider request later requests waits accepts retries
  | cons r rest ih =>
    obtain ⟨left, rfl⟩ : ∃ left, retries = left + 1 := Nat.exists_eq_add_one.mpr (by
      rw [List.length_cons] at enough
      omega)
    have next : p.maxRetries - left = p.maxRetries - (left + 1) + 1 := by omega
    have others : ∀ r ∈ rest, r.refuses = true := fun r member =>
      all r (List.mem_cons_of_mem _ member)
    rw [List.cons_append, p.sendFrom_refused _ _ _ _ _ (all r List.mem_cons_self),
      ih others (Nat.le_of_succ_le_succ enough) (Nat.le_of_succ_le within), pauses_cons, next]
    simp [List.replicate_succ]

theorem sendFrom_exhausted {refused : List HttpResponse} (all : ∀ r ∈ refused, r.refuses = true)
    (later : List HttpResponse) {retries : Nat} (length : refused.length = retries + 1)
    (within : retries ≤ p.maxRetries) (requests : List HttpRequest) (waits : List Nat) :
    p.sendFrom provider connection request retries ⟨refused ++ later, requests, waits⟩ =
      (.error .rateLimited, ⟨later, requests ++ List.replicate (retries + 1) request,
        waits ++ p.pauses (p.maxRetries - retries) (refused.take retries)⟩) := by
  induction retries generalizing refused requests waits with
  | zero =>
    obtain ⟨r, rfl⟩ := List.length_eq_one_iff.mp length
    simpa [pauses] using p.sendFrom_given_up provider request later requests waits
      (all r List.mem_cons_self)
  | succ left ih =>
    obtain ⟨r, rest, rfl⟩ := List.exists_cons_of_length_eq_add_one length
    have next : p.maxRetries - left = p.maxRetries - (left + 1) + 1 := by omega
    have others : ∀ r ∈ rest, r.refuses = true := fun r member =>
      all r (List.mem_cons_of_mem _ member)
    rw [List.cons_append, p.sendFrom_refused _ _ _ _ _ (all r List.mem_cons_self),
      ih others (Nat.succ.inj length) (Nat.le_of_succ_le within), List.take_succ_cons,
      pauses_cons, next]
    simp [List.replicate_succ]

/-- What sending comes to: the first answer that does not refuse, unless all attempts are refused. -/
def settled (answers : List HttpResponse) : Except ProviderFault HttpResponse :=
  match (answers.take (p.maxRetries + 1)).find? (!·.refuses) with
  | some answer => .ok answer
  | none => .error .rateLimited

theorem settled_accepted {refused : List HttpResponse} (all : ∀ r ∈ refused, r.refuses = true)
    {answer : HttpResponse} (accepts : answer.refuses = false) (later : List HttpResponse)
    (few : refused.length ≤ p.maxRetries) : p.settled (refused ++ answer :: later) = .ok answer := by
  have attempts : (refused ++ answer :: later).take (p.maxRetries + 1) =
      refused ++ answer :: later.take (p.maxRetries - refused.length) := by
    rw [List.take_append, List.take_of_length_le (by omega), Nat.sub_add_comm few,
      List.take_succ_cons]
  have none_before : refused.find? (!·.refuses) = none := by
    simpa [List.find?_eq_none] using all
  simp [settled, attempts, List.find?_append, none_before, accepts]

theorem settled_limited_iff (answers : List HttpResponse) :
    p.settled answers = .error .rateLimited ↔
      ∀ r ∈ answers.take (p.maxRetries + 1), r.status = 429 := by
  have all_refuse : (answers.take (p.maxRetries + 1)).find? (!·.refuses) = none ↔
      ∀ r ∈ answers.take (p.maxRetries + 1), r.status = 429 := by
    simp [List.find?_eq_none, HttpResponse.refuses]
  rw [← all_refuse, settled]
  cases (answers.take (p.maxRetries + 1)).find? (!·.refuses) <;> simp

variable {answers : List HttpResponse}

/-- Either an answer is accepted within the attempts there are, or all of these are refused. -/
theorem served_cases (served : p.IsServed answers) :
    (∃ refused answer later, answers = refused ++ answer :: later ∧
        (∀ r ∈ refused, r.refuses = true) ∧ answer.refuses = false ∧
        refused.length = refusals answers ∧ refused.length ≤ p.maxRetries) ∨
      (∃ refused later, answers = refused ++ later ∧ (∀ r ∈ refused, r.refuses = true) ∧
        refused.length = p.maxRetries + 1 ∧ p.maxRetries < refusals answers) := by
  let refused := answers.takeWhile (·.refuses)
  have whole : refused ++ answers.dropWhile (·.refuses) = answers :=
    List.takeWhile_append_dropWhile
  have all : ∀ r ∈ refused, r.refuses = true := fun r member => List.mem_takeWhile_imp member
  by_cases few : refusals answers ≤ p.maxRetries
  · left
    have more : refused.length < answers.length := by
      unfold IsServed at served
      rwa [min_eq_left few] at served
    cases rest : answers.dropWhile (·.refuses) with
    | nil =>
      rw [rest, List.append_nil] at whole
      rw [whole] at more
      exact absurd more (Nat.lt_irrefl _)
    | cons answer later =>
      have first := List.head?_dropWhile_not (fun r : HttpResponse => r.refuses) answers
      rw [rest] at first
      exact ⟨refused, answer, later, by rw [← whole, rest], all, by simpa using first, rfl, few⟩
  · right
    have many : p.maxRetries + 1 ≤ refused.length := Nat.lt_of_not_le few
    refine ⟨refused.take (p.maxRetries + 1), refused.drop (p.maxRetries + 1) ++
      answers.dropWhile (·.refuses), ?_, ?_, ?_, Nat.lt_of_not_le few⟩
    · rw [← List.append_assoc, List.take_append_drop, whole]
    · exact fun r member => all r (List.mem_of_mem_take member)
    · exact List.length_take_of_le many

/-- Against a server that answers every request: what sending comes to, what was asked for, and how
long was waited. -/
theorem send_served (served : p.IsServed answers) :
    let refused := min (refusals answers) p.maxRetries
    p.send provider connection request { answers } =
      (p.settled answers, ⟨answers.drop (refused + 1), List.replicate (refused + 1) request,
        p.pauses 0 (answers.take refused)⟩) := by
  rcases p.served_cases served with ⟨refused, answer, later, rfl, all, accepts, count, few⟩ |
    ⟨refused, later, rfl, all, length, many⟩
  · rw [← count, min_eq_left few, send, p.sendFrom_answered _ _ all accepts later few le_rfl,
      p.settled_accepted all accepts later few]
    simp
  · have before : (refused ++ later).take p.maxRetries = refused.take p.maxRetries :=
      List.take_append_of_le_length (by omega)
    have behind : (refused ++ later).drop (p.maxRetries + 1) = later := List.drop_left' length
    have limited : p.settled (refused ++ later) = .error .rateLimited := by
      rw [settled_limited_iff, List.take_left' length]
      simpa [HttpResponse.refuses] using all
    rw [min_eq_right (Nat.le_of_lt many), send,
      p.sendFrom_exhausted _ _ all later length le_rfl, limited]
    simp [before, behind]

/-- The answer after the refusals is what sending comes to, if there are retries enough. -/
theorem settled_first (served : p.IsServed answers) (few : refusals answers ≤ p.maxRetries) :
    ∃ answer, answers[refusals answers]? = some answer ∧ answer.status ≠ 429 ∧
      p.settled answers = .ok answer := by
  rcases p.served_cases served with ⟨refused, answer, later, rfl, all, accepts, count, -⟩ |
    ⟨_, _, _, _, _, many⟩
  · refine ⟨answer, ?_, ?_, p.settled_accepted all accepts later (count ▸ few)⟩
    · rw [← count, List.getElem?_append_right le_rfl, Nat.sub_self, List.getElem?_cons_zero]
    · simpa [HttpResponse.refuses] using accepts
  · exact absurd few (Nat.not_le_of_lt many)

end RetryPolicy

namespace OpenAiClient

open Server

variable (c : OpenAiClient)

def verdict {α : Type} (read : String → Except ProviderFault α) :
    Except ProviderFault HttpResponse → Except ProviderFault α
  | .error fault => .error fault
  | .ok answer =>
    if answer.isSuccess then read answer.body else .error (.status providerName answer.status)

variable {α : Type} {answers : List HttpResponse} (request : HttpRequest)
  (read : String → Except ProviderFault α)

theorem exchange_served (served : c.retry.IsServed answers) :
    let done := c.exchange connection request read { answers }
    done.1 = verdict read (c.retry.settled answers) ∧
      done.2.requests =
        List.replicate (min (refusals answers) c.retry.maxRetries + 1) request := by
  simp only [exchange, c.retry.send_served providerName request served]
  cases c.retry.settled answers with
  | error fault => exact ⟨rfl, rfl⟩
  | ok answer => cases success : answer.isSuccess <;> simp [verdict, success]

theorem exchange_failed {answer : HttpResponse} (few : refusals answers ≤ c.retry.maxRetries)
    (found : answers[refusals answers]? = some answer) (failed : answer.isSuccess = false) :
    let done := c.exchange connection request read { answers }
    done.1 = .error (.status providerName answer.status) ∧
      done.2.requests = List.replicate (refusals answers + 1) request := by
  have served : c.retry.IsServed answers := by
    rw [RetryPolicy.IsServed, min_eq_left few]
    exact (List.getElem?_eq_some_iff.mp found).1
  obtain ⟨outcome, requests⟩ := c.exchange_served request read served
  obtain ⟨first, same, -, settled⟩ := c.retry.settled_first served few
  obtain rfl : answer = first := Option.some.inj (found.symm.trans same)
  rw [settled] at outcome
  rw [min_eq_left few] at requests
  exact ⟨by simp [outcome, verdict, failed], requests⟩

end OpenAiClient

open Server

/-- Against a server that answers every request, with `j` answers that refuse before the first that
does not: a request is sent once more than the lesser of `j` and the retries, with a pause before each
repetition. What comes of it is the first answer that does not refuse, whatever else it says, or that
the rate is limited, which is so exactly when all attempts are refused. A client reports an answer
that is no success and does not send its request again. -/
theorem requests_repeated_while_refused (answers : List HttpResponse) :
    let j := refusals answers
    (∀ (p : RetryPolicy) (provider : String) (request : HttpRequest), p.IsServed answers →
      let done := p.send provider connection request { answers }
      done.2.requests = List.replicate (min j p.maxRetries + 1) request ∧
      done.2.waits = p.pauses 0 (answers.take (min j p.maxRetries)) ∧
      (j ≤ p.maxRetries → ∃ r, answers[j]? = some r ∧ r.status ≠ 429 ∧ done.1 = .ok r) ∧
      (done.1 = .error .rateLimited ↔
        ∀ r ∈ answers.take (p.maxRetries + 1), r.status = 429)) ∧
    ∀ (c : OpenAiClient) (r : HttpResponse), j ≤ c.retry.maxRetries → answers[j]? = some r →
      r.isSuccess = false →
      (∀ messages : List Message,
        let done := (c.provider connection).chat messages { answers }
        done.1 = .error (.status "openai" r.status) ∧
          done.2.requests = List.replicate (j + 1) (c.chatRequest messages)) ∧
      ∀ (model : String) (texts : List String), c.embeddingModel = some model → texts ≠ [] →
        let done := (c.provider connection).embed texts { answers }
        done.1 = .error (.status "openai" r.status) ∧
          done.2.requests = List.replicate (j + 1) (c.embeddingRequest model texts) := by
  intro j
  constructor
  · intro p provider request served
    simp only [p.send_served provider request served]
    refine ⟨rfl, rfl, p.settled_first served, p.settled_limited_iff answers⟩
  · intro c r few found failed
    constructor
    · intro messages
      exact c.exchange_failed (c.chatRequest messages) OpenAiClient.readChat few found failed
    · intro model texts configured some_text
      have nonempty : texts.isEmpty = false := by simpa using some_text
      simp only [OpenAiClient.provider, OpenAiClient.embed, configured, nonempty]
      exact c.exchange_failed (c.embeddingRequest model texts) OpenAiClient.readEmbeddings few
        found failed

/-- Two refusals, the first of which says how long to wait, before a server that is out of order: three
requests where there are retries enough, two where there is one. -/
theorem outage_reported_after_two_refusals :
    let outage : HttpResponse := ⟨503, [], "out of order"⟩
    let answers := [⟨429, [("Retry-After", "7")], ""⟩, ⟨429, [], ""⟩, outage, ⟨200, [], ""⟩]
    let client : OpenAiClient := ⟨"key", "http://host/", "chat", 16, some "small", {}, false⟩
    let question := [⟨.user, "Why?"⟩]
    let asked := client.retry.send "openai" connection (client.chatRequest question) { answers }
    let limited := RetryPolicy.send ⟨1, 1⟩ "openai" connection (client.chatRequest question) { answers }
    let chat := (client.provider connection).chat question { answers }
    let embedding := (client.provider connection).embed ["a"] { answers }
    client.retry.IsServed answers ∧ asked.1 = .ok outage ∧ asked.2.waits = [7, 2] ∧
      RetryPolicy.IsServed ⟨1, 1⟩ answers ∧ limited.1 = .error .rateLimited ∧
      limited.2.requests = List.replicate 2 (client.chatRequest question) ∧
      outage.isSuccess = false ∧ chat.1 = .error (.status "openai" 503) ∧
      chat.2.requests = List.replicate 3 (client.chatRequest question) ∧
      embedding.1 = .error (.status "openai" 503) ∧
      embedding.2.requests = List.replicate 3 (client.embeddingRequest "small" ["a"]) := by
  intro outage answers client question asked limited chat embedding
  obtain ⟨sending, reporting⟩ := requests_repeated_while_refused answers
  have served : client.retry.IsServed answers := by decide
  have lessServed : RetryPolicy.IsServed ⟨1, 1⟩ answers := by decide
  obtain ⟨-, waits, accepted, -⟩ :=
    sending client.retry "openai" (client.chatRequest question) served
  obtain ⟨twice, -, -, refused⟩ := sending ⟨1, 1⟩ "openai" (client.chatRequest question) lessServed
  obtain ⟨answer, third, -, outcome⟩ := accepted (by decide)
  obtain rfl : outage = answer := Option.some.inj third
  obtain ⟨chats, embeds⟩ := reporting client outage (by decide) rfl rfl
  obtain ⟨chatOutcome, chatRequests⟩ := chats question
  obtain ⟨embedOutcome, embedRequests⟩ := embeds "small" ["a"] rfl (List.cons_ne_nil _ _)
  exact ⟨served, outcome, waits, lessServed, refused.mpr (by decide), twice, rfl, chatOutcome,
    chatRequests, embedOutcome, embedRequests⟩

end CodeAtlas
