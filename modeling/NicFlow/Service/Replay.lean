import NicFlow.Service.Remote

/-! A service that gives prepared responses, each method its own ones in order, and keeps what was
sent to it. -/

namespace NicFlow

open Wire Remote

/-- A call as it went over the connection. -/
structure SentCall where
  path : String
  request : Bytes
deriving DecidableEq, Repr

structure Replay where
  /-- The responses that are left, by the name of the call. -/
  responses : List (String × List Response)
  /-- All calls so far. -/
  sent : List SentCall

namespace Replay

def ofResponses (responses : List (String × List Response)) : Replay := ⟨responses, []⟩

/-- What a method without a response left answers. -/
def exhausted : Response := .status .unimplemented ""

/-- Takes the next response of a method. -/
def take (name : String) : List (String × List Response) → Response × List (String × List Response)
  | [] => (exhausted, [])
  | (other, responses) :: rest =>
    if other = name then
      match responses with
      | [] => (exhausted, (other, []) :: rest)
      | response :: left => (response, (other, left) :: rest)
    else
      let (response, left) := take name rest
      (response, (other, responses) :: left)

def connection : Connection Replay := fun call replay =>
  let (response, responses) := take call.name replay.responses
  (response, ⟨responses, replay.sent ++ [⟨call.path, call.encode⟩]⟩)

end Replay

/-- The connection to an address where nothing listens. -/
def unreachable {τ : Type} : Connection τ := fun _ state =>
  (.status .unavailable "No such file or directory (os error 2)", state)

end NicFlow
