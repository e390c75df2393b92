/-! Log events, spans of work around them, and computations that report events while they work. -/

namespace NicFlow.Log

inductive Level where
  | trace | debug | info | warn | error
deriving DecidableEq, Repr

/-- The name of a level in a log line. -/
def Level.name : Level → String
  | .trace => "TRACE"
  | .debug => "DEBUG"
  | .info => "INFO"
  | .warn => "WARN"
  | .error => "ERROR"

/-- A piece of work that events are reported within. -/
structure Span where
  level : Level
  target : String
  name : String
  /-- The numbers that tell it from other work of its name. -/
  fields : List (String × Nat)
deriving DecidableEq, Repr

structure Event where
  level : Level
  /-- The part of the program that reports. -/
  target : String
  message : String
  /-- The work around the event, the innermost first. -/
  spans : List Span
deriving DecidableEq, Repr

namespace Event

def trace (target message : String) : Event := ⟨.trace, target, message, []⟩

def debug (target message : String) : Event := ⟨.debug, target, message, []⟩

def info (target message : String) : Event := ⟨.info, target, message, []⟩

def warn (target message : String) : Event := ⟨.warn, target, message, []⟩

def error (target message : String) : Event := ⟨.error, target, message, []⟩

/-- The event with another span around all those that it has. -/
def within (span : Span) (event : Event) : Event := { event with spans := event.spans ++ [span] }

end Event

/-- A result together with the events reported on the way to it. -/
structure Traced (ε α : Type) where
  result : Except ε α
  events : List Event

namespace Traced

variable {ε α β : Type}

/-- What comes after an error is not reached, and reports nothing. -/
def bind (first : Traced ε α) (next : α → Traced ε β) : Traced ε β :=
  match first.result with
  | .ok value => ⟨(next value).result, first.events ++ (next value).events⟩
  | .error error => ⟨.error error, first.events⟩

instance : Monad (Traced ε) where
  pure value := ⟨.ok value, []⟩
  bind := bind

/-- A result that reports nothing. -/
def of (result : Except ε α) : Traced ε α := ⟨result, []⟩

def fail (error : ε) : Traced ε α := of (.error error)

/-- Reports one event. -/
def report (event : Event) : Traced ε Unit := ⟨.ok (), [event]⟩

def mapError {δ : Type} (f : ε → δ) (traced : Traced ε α) : Traced δ α :=
  ⟨traced.result.mapError f, traced.events⟩

/-- Reports the events of a computation within a span. -/
def within (span : Span) (traced : Traced ε α) : Traced ε α :=
  ⟨traced.result, traced.events.map (Event.within span)⟩

/-- The values of all elements in order, up to the first error. -/
def forEach {γ : Type} (f : γ → Traced ε α) : List γ → Traced ε (List α)
  | [] => pure []
  | element :: rest => do
    let value ← f element
    let values ← forEach f rest
    return value :: values

/-- The values of all elements with their positions, counted from a start. -/
def forEachFrom {γ : Type} (f : Nat → γ → Traced ε α) : Nat → List γ → Traced ε (List α)
  | _, [] => pure []
  | position, element :: rest => do
    let value ← f position element
    let values ← forEachFrom f (position + 1) rest
    return value :: values

@[simp] theorem result_pure (value : α) : (pure value : Traced ε α).result = .ok value := rfl

@[simp] theorem result_bind (first : Traced ε α) (next : α → Traced ε β) :
    (first >>= next).result = first.result.bind fun value => (next value).result := by
  show (Traced.bind first next).result = _
  unfold Traced.bind
  cases first.result <;> rfl

@[simp] theorem result_of (result : Except ε α) : (of result).result = result := rfl

@[simp] theorem result_fail (error : ε) : (fail error : Traced ε α).result = .error error := rfl

@[simp] theorem result_report (event : Event) : (report event : Traced ε Unit).result = .ok () := rfl

@[simp] theorem result_mapError {δ : Type} (f : ε → δ) (traced : Traced ε α) :
    (traced.mapError f).result = traced.result.mapError f := rfl

@[simp] theorem result_within (span : Span) (traced : Traced ε α) :
    (traced.within span).result = traced.result := rfl

end Traced

end NicFlow.Log
