import NicFlow.Service.Program

/-! Waiting until the flow service answers: the ports are listed again and again, with growing
delays. -/

namespace NicFlow

open Log

/-- A schedule of delays. -/
structure Backoff where
  initial : Duration
  factor : UInt32
  attempts : UInt32

namespace Backoff

def default : Backoff := ⟨.ofMilliseconds 50, 2, 10⟩

/-- The delay after an attempt, counted from zero. The power of the factor keeps within 32 bits. -/
def delay (backoff : Backoff) (attempt : Nat) : Duration :=
  backoff.initial.scale (min (backoff.factor.toNat.pow attempt) 0xffffffff)

def delays (backoff : Backoff) : List Duration :=
  (List.range backoff.attempts.toNat).map backoff.delay

/-- The sum of all delays. -/
def budget (backoff : Backoff) : Duration := backoff.delays.foldl Duration.add .zero

end Backoff

namespace Readiness

def target : String := "flowconfig_rpc::ready"

/-- Makes the attempts that are left, each followed by its delay if it fails. -/
def attempt {σ : Type} (state : σ) (attempts : Nat) (last : Option RpcError) :
    (number : Nat) → (delays : List Duration) → Program σ (Except RpcError (List Port))
  | _, [] => .done state (.error (.notReady attempts last))
  | number, delay :: delays =>
    .call state .listPorts fun answer =>
      match answer with
      | .ok ports =>
        .report (.info target
          s!"flow service ready after {number} attempt(s), {ports.length} port(s)")
          (.done state (.ok ports))
      | .error error =>
        .report (.warn target
          s!"flow service not ready (attempt {number}/{attempts}): {error.message}, retrying in {delay.render}")
          (.sleep delay (attempt state attempts (some error) (number + 1) delays))

end Readiness

/-- The ports of the service, once it answers. -/
def waitReady {σ : Type} (state : σ) (backoff : Backoff) :
    Program σ (Except RpcError (List Port)) :=
  Readiness.attempt state backoff.attempts.toNat none 1 backoff.delays

end NicFlow
