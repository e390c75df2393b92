import NicFlow.Log.Event
import NicFlow.Service.Call
import NicFlow.Time.Duration

/-! Programs that work with the flow service: each step reports an event, waits, or calls the service
and goes on with the answer. A program shows its state at every call, and at its end. -/

namespace NicFlow

open Log

inductive Program (σ α : Type) where
  | done (state : σ) (value : α)
  | report (event : Event) (rest : Program σ α)
  | sleep (duration : Duration) (rest : Program σ α)
  | call (state : σ) (request : Call) (next : request.Answer → Program σ α)

namespace Program

variable {σ α β ε : Type}

/-- Goes on from the end of a program. -/
def bind : Program σ α → (σ → α → Program σ β) → Program σ β
  | .done state value, next => next state value
  | .report event rest, next => .report event (rest.bind next)
  | .sleep duration rest, next => .sleep duration (rest.bind next)
  | .call state request reply, next =>
    .call state request fun answer => (reply answer).bind next

/-- Goes on from the end of a program that did not fail. -/
def andThen (program : Program σ (Except ε α)) (next : σ → α → Program σ (Except ε β)) :
    Program σ (Except ε β) :=
  program.bind fun state result =>
    match result with
    | .ok value => next state value
    | .error error => .done state (.error error)

def reportAll (events : List Event) (rest : Program σ α) : Program σ α :=
  events.foldr .report rest

/-- A computation that calls nothing. -/
def ofTraced (state : σ) (work : Traced ε α) : Program σ (Except ε α) :=
  reportAll work.events (.done state work.result)

/-- Reports the events of a program within a span. -/
def within (span : Span) : Program σ α → Program σ α
  | .done state value => .done state value
  | .report event rest => .report (event.within span) (rest.within span)
  | .sleep duration rest => .sleep duration (rest.within span)
  | .call state request next => .call state request fun answer => (next answer).within span

/-- What a run of a program against a service came to. -/
structure Run (σ τ α : Type) where
  value : α
  state : σ
  service : τ
  events : List Event
  slept : List Duration

/-- Runs a program against a service that answers one call after the other. -/
def run {τ : Type} (serve : (call : Call) → τ → call.Answer × τ) :
    Program σ α → τ → Run σ τ α
  | .done state value, service => ⟨value, state, service, [], []⟩
  | .report event rest, service =>
    let outcome := rest.run serve service
    { outcome with events := event :: outcome.events }
  | .sleep duration rest, service =>
    let outcome := rest.run serve service
    { outcome with slept := duration :: outcome.slept }
  | .call _ request next, service =>
    let (answer, service) := serve request service
    (next answer).run serve service

end Program

end NicFlow
