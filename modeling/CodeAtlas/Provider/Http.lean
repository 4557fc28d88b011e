import CodeAtlas.Provider.Basic
import CodeAtlas.Text.Natural

/-!
Requests to a provider's server, and their repetition while the server says that there are too many
of them.
-/
namespace CodeAtlas

structure HttpRequest where
  url : String
  headers : List (String × String)
  body : Json
  deriving DecidableEq, Repr

structure HttpResponse where
  status : Nat
  headers : List (String × String)
  body : String
  deriving DecidableEq, Repr

namespace HttpResponse

def isSuccess (r : HttpResponse) : Bool := 200 ≤ r.status && r.status < 300

/-- Header names are compared without regard to case. -/
def header? (r : HttpResponse) (name : String) : Option String :=
  (r.headers.find? fun entry =>
    entry.1.toList.map Char.toLower == name.toList.map Char.toLower).map Prod.snd

end HttpResponse

/-- The way to a server. What comes back is the answer after the client has followed all redirects,
or nothing when the server cannot be reached. -/
structure Connection (World : Type) where
  send : HttpRequest → World → Option HttpResponse × World
  notify : String → World → World
  wait : Nat → World → World

structure RetryPolicy where
  maxRetries : Nat := 3
  baseSeconds : Nat := 1
  deriving DecidableEq, Repr

namespace RetryPolicy

/-- Seconds to wait: what the server asks for, or twice as long each time. -/
def delay (p : RetryPolicy) (retryAfter : Option String) (attempt : Nat) : Nat :=
  match retryAfter.bind fun value => Text.natural? Text.wordBound (Text.trim value.toList) with
  | some seconds => seconds
  | none => p.baseSeconds * (if attempt < 32 then Nat.pow 2 attempt else 4294967295)

def notice (p : RetryPolicy) (provider : String) (seconds attempt : Nat) : String :=
  provider ++ " rate limited, retrying in " ++ toString seconds ++ "s (" ++
    toString (attempt + 1) ++ "/" ++ toString p.maxRetries ++ ")"

variable {World : Type}

def sendFrom (p : RetryPolicy) (provider : String) (c : Connection World) (request : HttpRequest) :
    Nat → World → Except ProviderFault HttpResponse × World
  | retries, world =>
    match c.send request world with
    | (none, after) => (.error (.unreachable request.url), after)
    | (some response, after) =>
      if response.status ≠ 429 then (.ok response, after)
      else
        match retries with
        | 0 => (.error .rateLimited, after)
        | left + 1 =>
          let attempt := p.maxRetries - (left + 1)
          let seconds := p.delay (response.header? "retry-after") attempt
          sendFrom p provider c request left
            (c.wait seconds (c.notify (p.notice provider seconds attempt) after))

def send (p : RetryPolicy) (provider : String) (c : Connection World) (request : HttpRequest)
    (world : World) : Except ProviderFault HttpResponse × World :=
  p.sendFrom provider c request p.maxRetries world

end RetryPolicy

def Connection.unreachable (World : Type) : Connection World :=
  ⟨fun _ world => (none, world), fun _ world => world, fun _ world => world⟩

end CodeAtlas
