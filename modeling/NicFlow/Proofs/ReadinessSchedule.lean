import Mathlib.Algebra.GroupWithZero.Nat
import NicFlow.Service.Readiness

/-! The wait for the flow service follows its schedule: it calls for the ports, waits for a delay after each
failure, and ends with the first answer or, after the last delay, with the last failure. -/

namespace NicFlow

open Log

namespace Program

inductive Effect where
  | call (request : Call)
  | sleep (duration : Duration)

def Effect.duration? : Effect → Option Duration
  | .call _ => none
  | .sleep duration => some duration

def Effect.request? : Effect → Option Call
  | .call request => some request
  | .sleep _ => none

section Effects

variable {σ τ α : Type} {serve : (call : Call) → τ → call.Answer × τ}

def effects (serve : (call : Call) → τ → call.Answer × τ) : Program σ α → τ → List Effect
  | .done _ _, _ => []
  | .report _ rest, service => rest.effects serve service
  | .sleep duration rest, service => .sleep duration :: rest.effects serve service
  | .call _ request next, service =>
    .call request :: (next (serve request service).1).effects serve (serve request service).2

private theorem run_slept (program : Program σ α) (service : τ) :
    (program.run serve service).slept = (program.effects serve service).filterMap Effect.duration? := by
  induction program generalizing service with
  | done state value => rfl
  | report event rest ih => exact ih service
  | sleep duration rest ih => exact congrArg (List.cons duration) (ih service)
  | call state request next ih => exact ih (serve request service).1 (serve request service).2

end Effects

end Program

namespace Backoff

variable {backoff : Backoff}

theorem length_delays : backoff.delays.length = backoff.attempts.toNat := by
  rw [delays, List.length_map, List.length_range]

private theorem getElem?_delays (attempt : Nat) : backoff.delays[attempt]? =
    if attempt < backoff.attempts.toNat then
      some ⟨min Duration.max.nanoseconds
        (backoff.initial.nanoseconds * min 0xffffffff (backoff.factor.toNat ^ attempt))⟩
    else none := by
  rw [delays, List.getElem?_map]
  split
  next within =>
    rw [List.getElem?_range within, Nat.min_comm Duration.max.nanoseconds, Nat.min_comm 0xffffffff]
    rfl
  next beyond =>
    rw [List.getElem?_eq_none (by rw [List.length_range]; omega)]
    rfl

private theorem delay_le_delay (grows : 1 ≤ backoff.factor) {earlier later : Nat} (before : earlier ≤ later) :
    (backoff.delay earlier).nanoseconds ≤ (backoff.delay later).nanoseconds := by
  have powers : backoff.factor.toNat ^ earlier ≤ backoff.factor.toNat ^ later :=
    Nat.pow_le_pow_right (UInt32.le_iff_toNat_le.mp grows) before
  have factors : min (backoff.factor.toNat ^ earlier) 0xffffffff ≤ min (backoff.factor.toNat ^ later) 0xffffffff := by
    omega
  have products := Nat.mul_le_mul_left backoff.initial.nanoseconds factors
  exact Nat.le_min.mpr ⟨Nat.le_trans (Nat.min_le_left _ _) products, Nat.min_le_right _ _⟩

private theorem delays_pairwise (grows : 1 ≤ backoff.factor) :
    backoff.delays.Pairwise fun earlier later => earlier.nanoseconds ≤ later.nanoseconds := by
  apply List.pairwise_map.mpr
  exact List.pairwise_lt_range.imp fun before => delay_le_delay grows (Nat.le_of_lt before)

private theorem foldl_add_nanoseconds (delays : List Duration) (total : Duration)
    (bounded : total.nanoseconds ≤ Duration.max.nanoseconds) :
    (delays.foldl Duration.add total).nanoseconds =
      min Duration.max.nanoseconds (total.nanoseconds + (delays.map Duration.nanoseconds).sum) := by
  induction delays generalizing total with
  | nil => exact (Nat.min_eq_right bounded).symm
  | cons delay rest ih =>
    have step : (total.add delay).nanoseconds = min (total.nanoseconds + delay.nanoseconds) Duration.max.nanoseconds :=
      rfl
    rw [List.foldl_cons, ih (total.add delay) (by omega), step, List.map_cons, List.sum_cons]
    omega

private theorem budget_nanoseconds : backoff.budget.nanoseconds =
    min Duration.max.nanoseconds (backoff.delays.map Duration.nanoseconds).sum := by
  have none : Duration.zero.nanoseconds = 0 := rfl
  rw [budget, foldl_add_nanoseconds backoff.delays .zero (Nat.zero_le _), none, Nat.zero_add]

end Backoff

namespace Readiness

open Program

/-- A service that answers the calls for its ports one after the other, with the number of calls as its state. -/
def answering (answers : Nat → Except RpcError (List Port)) : (call : Call) → Nat → call.Answer × Nat
  | .listPorts, calls => (answers calls, calls + 1)
  | _, calls => (.error (.status .unimplemented ""), calls + 1)

/-- The first answer that is not an error comes after this number of failures. -/
structure FirstAnswer (answers : Nat → Except RpcError (List Port)) (failures : Nat) (ports : List Port) : Prop where
  answer : answers failures = .ok ports
  failed : ∀ earlier < failures, ∃ error, answers earlier = .error error

inductive LastError (answers : Nat → Except RpcError (List Port)) : Nat → Option RpcError → Prop where
  | none : LastError answers 0 none
  | some {calls : Nat} {error : RpcError} (failed : answers calls = .error error) :
      LastError answers (calls + 1) (some error)

def rounds (delays : List Duration) : List Effect :=
  delays.flatMap fun delay => [.call .listPorts, .sleep delay]

section Loop

variable {σ : Type} {state : σ} {answers : Nat → Except RpcError (List Port)} {attempts number calls : Nat}
  {last : Option RpcError} {delay : Duration} {delays : List Duration}

private theorem run_service (program : Program σ (Except RpcError (List Port))) (calls : Nat) :
    (program.run (answering answers) calls).service =
      calls + ((program.effects (answering answers) calls).filterMap Effect.request?).length := by
  induction program generalizing calls with
  | done state value => rfl
  | report event rest ih => exact ih calls
  | sleep duration rest ih => exact ih calls
  | call state request next ih =>
    have counted : (answering answers request calls).2 = calls + 1 := by cases request <;> rfl
    have later := ih (answering answers request calls).1 (answering answers request calls).2
    rw [counted, Nat.add_right_comm] at later
    simp only [Program.run, Program.effects, List.filterMap_cons, Effect.request?, List.length_cons, counted, later,
      Nat.add_assoc]

private theorem attempt_answered {ports : List Port} (answer : answers calls = .ok ports) :
    ((attempt state attempts last number (delay :: delays)).run (answering answers) calls).value = .ok ports ∧
      (attempt state attempts last number (delay :: delays)).effects (answering answers) calls =
        [.call .listPorts] := by
  have answered : answering answers .listPorts calls = (.ok ports, calls + 1) := by rw [← answer]; rfl
  simp only [attempt, Program.run, Program.effects, answered, and_self]

private theorem attempt_failed {error : RpcError} (failed : answers calls = .error error) :
    ((attempt state attempts last number (delay :: delays)).run (answering answers) calls).value =
        ((attempt state attempts (some error) (number + 1) delays).run (answering answers) (calls + 1)).value ∧
      (attempt state attempts last number (delay :: delays)).effects (answering answers) calls =
        .call .listPorts :: .sleep delay ::
          (attempt state attempts (some error) (number + 1) delays).effects (answering answers) (calls + 1) := by
  have answered : answering answers .listPorts calls = (.error error, calls + 1) := by rw [← failed]; rfl
  simp only [attempt, Program.run, Program.effects, answered, and_self]

/-- The first answer comes after as many rounds as there were failures before it. -/
theorem attempt_of_firstAnswer {failures : Nat} {ports : List Port}
    (first : FirstAnswer (fun later => answers (calls + later)) failures ports) (within : failures < delays.length) :
    ((attempt state attempts last number delays).run (answering answers) calls).value = .ok ports ∧
      (attempt state attempts last number delays).effects (answering answers) calls =
        rounds (delays.take failures) ++ [.call .listPorts] := by
  induction delays generalizing calls failures last number with
  | nil => exact absurd within (Nat.not_lt_zero failures)
  | cons delay rest ih =>
    cases failures with
    | zero => exact attempt_answered first.answer
    | succ failures =>
      obtain ⟨error, failed⟩ : ∃ error, answers calls = .error error := first.failed 0 (Nat.succ_pos failures)
      have shifted (later : Nat) : calls + 1 + later = calls + (later + 1) := by omega
      have rest : FirstAnswer (fun later => answers (calls + 1 + later)) failures ports := by
        refine ⟨?_, fun earlier before => ?_⟩
        · rw [shifted]
          exact first.answer
        · rw [shifted]
          exact first.failed (earlier + 1) (Nat.succ_lt_succ before)
      obtain ⟨laterValue, laterEffects⟩ := ih rest (Nat.lt_of_succ_lt_succ within)
      obtain ⟨value, effects⟩ := attempt_failed failed
      refine ⟨value.trans laterValue, ?_⟩
      rw [effects, laterEffects]
      rfl

/-- Without an answer the wait ends with the last failure, after a round for each delay. -/
theorem attempt_of_failures (before : LastError answers calls last)
    (failed : ∀ later < delays.length, ∃ error, answers (calls + later) = .error error) :
    (∃ final, LastError answers (calls + delays.length) final ∧
      ((attempt state attempts last number delays).run (answering answers) calls).value =
        .error (.notReady attempts final)) ∧
      (attempt state attempts last number delays).effects (answering answers) calls = rounds delays := by
  induction delays generalizing calls last number with
  | nil => exact ⟨⟨last, before, rfl⟩, rfl⟩
  | cons delay rest ih =>
    have shifted (later : Nat) : calls + 1 + later = calls + (later + 1) := by omega
    obtain ⟨error, now⟩ : ∃ error, answers calls = .error error := failed 0 (Nat.succ_pos _)
    have later : ∀ later < rest.length, ∃ error, answers (calls + 1 + later) = .error error := by
      intro later within
      rw [shifted]
      exact failed (later + 1) (Nat.succ_lt_succ within)
    obtain ⟨value, effects⟩ := attempt_failed now
    obtain ⟨⟨final, lastError, laterValue⟩, laterEffects⟩ := ih (.some now) later
    rw [shifted] at lastError
    refine ⟨⟨final, lastError, value.trans laterValue⟩, ?_⟩
    rw [effects, laterEffects]
    rfl

private theorem firstAnswer_or_failed (answers : Nat → Except RpcError (List Port)) (calls : Nat) :
    (∃ failures ports, failures < calls ∧ FirstAnswer answers failures ports) ∨
      ∀ earlier < calls, ∃ error, answers earlier = .error error := by
  induction calls with
  | zero => exact Or.inr fun earlier impossible => absurd impossible (Nat.not_lt_zero earlier)
  | succ calls ih =>
    rcases ih with ⟨failures, ports, within, first⟩ | failed
    · exact Or.inl ⟨failures, ports, Nat.lt_succ_of_lt within, first⟩
    · cases answer : answers calls with
      | ok ports => exact Or.inl ⟨calls, ports, Nat.lt_succ_self calls, answer, failed⟩
      | error error =>
        refine Or.inr fun earlier before => ?_
        rcases Nat.lt_succ_iff_lt_or_eq.mp before with sooner | rfl
        · exact failed earlier sooner
        · exact ⟨error, answer⟩

end Loop

section Counter

/-- The counter of 32 bits after a number is drawn from it, unless it overflows then. -/
def draw (counter : Int32) : Option Int32 :=
  if counter = Int32.maxValue then none else some (counter + 1)

/-- The attempts as they are counted in 32 bits: a number is drawn before each search for a delay, the one that
finds none included. The program has no value once the counter overflows. -/
def counted {σ : Type} (state : σ) (attempts : Nat) (last : Option RpcError) :
    (counter : Int32) → (delays : List Duration) → Program σ (Option (Except RpcError (List Port)))
  | counter, [] =>
    match draw counter with
    | none => .done state none
    | some _ => .done state (some (.error (.notReady attempts last)))
  | counter, delay :: delays =>
    match draw counter with
    | none => .done state none
    | some advanced =>
      .call state .listPorts fun answer =>
        match answer with
        | .ok ports =>
          .report (.info target s!"flow service ready after {counter} attempt(s), {ports.length} port(s)")
            (.done state (some (.ok ports)))
        | .error error =>
          .report (.warn target
            s!"flow service not ready (attempt {counter}/{attempts}): {error.message}, retrying in {delay.render}")
            (.sleep delay (counted state attempts (some error) advanced delays))

private theorem draw_ofNat (number : Nat) (small : number + 1 < 2 ^ 31) :
    draw (Int32.ofNat number) = some (Int32.ofNat (number + 1)) := by
  have unequal : Int32.ofNat number ≠ Int32.maxValue := by
    intro same
    have value : (Int32.ofNat number).toInt = number := Int32.toInt_ofNat_of_lt (by omega)
    rw [same, Int32.toInt_maxValue] at value
    omega
  rw [draw, if_neg unequal, Int32.ofNat_add]
  rfl

private theorem counted_eq {σ : Type} {state : σ} {attempts : Nat} {last : Option RpcError} (number : Nat)
    {delays : List Duration} (few : number + delays.length + 1 < 2 ^ 31) :
    counted state attempts last (Int32.ofNat number) delays =
      (attempt state attempts last number delays).bind fun state result => .done state (some result) := by
  induction delays generalizing number last with
  | nil =>
    rw [counted, draw_ofNat number few]
    rfl
  | cons delay rest ih =>
    rw [List.length_cons] at few
    have value : (Int32.ofNat number).toInt = number := Int32.toInt_ofNat_of_lt (by omega)
    have text : toString (Int32.ofNat number) = toString number := congrArg toString value
    rw [counted, draw_ofNat number (by omega), attempt, Program.bind]
    simp only
    congr 1
    funext answer
    cases answer with
    | ok ports =>
      simp only [text]
      rfl
    | error error =>
      simp only [text, ih (number + 1) (by omega)]
      rfl

end Counter

section Wait

variable {σ : Type}

/-- A wait that comes to these ports after so many failures, each followed by its delay. -/
structure FindsPorts (program : Program σ (Except RpcError (List Port)))
    (answers : Nat → Except RpcError (List Port)) (delays : List Duration) (failures : Nat) (ports : List Port) :
    Prop where
  value : (program.run (answering answers) 0).value = .ok ports
  calls : (program.run (answering answers) 0).service = failures + 1
  slept : (program.run (answering answers) 0).slept = delays.take failures
  asked : program.effects (answering answers) 0 = rounds (delays.take failures) ++ [.call .listPorts]

/-- A wait that fails with the error of its last call after all delays. -/
structure GivesUp (program : Program σ (Except RpcError (List Port)))
    (answers : Nat → Except RpcError (List Port)) (delays : List Duration) (attempts : Nat) : Prop where
  value : ∃ last, LastError answers attempts last ∧
    (program.run (answering answers) 0).value = .error (.notReady attempts last)
  calls : (program.run (answering answers) 0).service = attempts
  slept : (program.run (answering answers) 0).slept = delays
  asked : program.effects (answering answers) 0 = rounds delays

private theorem length_filterMap_request?_rounds (delays : List Duration) :
    ((rounds delays).filterMap Effect.request?).length = delays.length := by
  induction delays with
  | nil => rfl
  | cons delay rest ih => exact congrArg (· + 1) ih

private theorem filterMap_duration?_rounds (delays : List Duration) :
    (rounds delays).filterMap Effect.duration? = delays := by
  induction delays with
  | nil => rfl
  | cons delay rest ih => exact congrArg (List.cons delay) ih

private theorem waitReady_findsPorts {state : σ} {backoff : Backoff} {answers : Nat → Except RpcError (List Port)}
    {failures : Nat} {ports : List Port} (first : FirstAnswer answers failures ports)
    (within : failures < backoff.attempts.toNat) :
    FindsPorts (waitReady state backoff) answers backoff.delays failures ports := by
  have fromStart : FirstAnswer (fun later => answers (0 + later)) failures ports := by
    simpa only [Nat.zero_add] using first
  have enough : failures < backoff.delays.length := by rwa [Backoff.length_delays]
  obtain ⟨value, asked⟩ : ((waitReady state backoff).run (answering answers) 0).value = .ok ports ∧
      (waitReady state backoff).effects (answering answers) 0 =
        rounds (backoff.delays.take failures) ++ [Effect.call .listPorts] := attempt_of_firstAnswer fromStart enough
  refine ⟨value, ?_, ?_, asked⟩
  · rw [run_service, asked, List.filterMap_append, List.length_append, length_filterMap_request?_rounds,
      List.length_take_of_le (Nat.le_of_lt enough)]
    exact Nat.zero_add _
  · rw [Program.run_slept, asked, List.filterMap_append, filterMap_duration?_rounds]
    exact List.append_nil _

private theorem waitReady_givesUp {state : σ} {backoff : Backoff} {answers : Nat → Except RpcError (List Port)}
    (failed : ∀ earlier < backoff.attempts.toNat, ∃ error, answers earlier = .error error) :
    GivesUp (waitReady state backoff) answers backoff.delays backoff.attempts.toNat := by
  have fromStart : ∀ later < backoff.delays.length, ∃ error, answers (0 + later) = .error error := by
    simpa only [Nat.zero_add, Backoff.length_delays] using failed
  obtain ⟨value, asked⟩ : (∃ last, LastError answers (0 + backoff.delays.length) last ∧
      ((waitReady state backoff).run (answering answers) 0).value = .error (.notReady backoff.attempts.toNat last)) ∧
      (waitReady state backoff).effects (answering answers) 0 = rounds backoff.delays :=
    attempt_of_failures .none fromStart
  rw [Nat.zero_add, Backoff.length_delays] at value
  refine ⟨value, ?_, ?_, asked⟩
  · rw [run_service, asked, length_filterMap_request?_rounds, Nat.zero_add, Backoff.length_delays]
  · rw [Program.run_slept, asked, filterMap_duration?_rounds]

end Wait

end Readiness

open Readiness in
/-- The wait comes to the first ports that are answered, after a call and its delay for each failure before, as
long as there are attempts; else it gives up with the last failure after all delays. The delays grow by the
factor and are bounded, as is their sum, and the numbers of the attempts can be counted in 32 bits. -/
theorem waitReady_follows_schedule {σ : Type} (state : σ) (backoff : Backoff)
    (answers : Nat → Except RpcError (List Port)) (few : backoff.attempts.toNat < 2 ^ 31 - 2) :
    (∀ failures ports, FirstAnswer answers failures ports → failures + 1 ≤ backoff.attempts.toNat →
      FindsPorts (waitReady state backoff) answers backoff.delays failures ports) ∧
    ((¬ ∃ failures ports, FirstAnswer answers failures ports ∧ failures + 1 ≤ backoff.attempts.toNat) →
      GivesUp (waitReady state backoff) answers backoff.delays backoff.attempts.toNat) ∧
    backoff.budget.nanoseconds = min Duration.max.nanoseconds (backoff.delays.map Duration.nanoseconds).sum ∧
    (∀ attempt, backoff.delays[attempt]? = if attempt < backoff.attempts.toNat then
      some ⟨min Duration.max.nanoseconds
        (backoff.initial.nanoseconds * min (2 ^ 32 - 1) (backoff.factor.toNat ^ attempt))⟩ else none) ∧
    (1 ≤ backoff.factor → backoff.delays.Pairwise fun earlier later => earlier.nanoseconds ≤ later.nanoseconds) ∧
    counted state backoff.attempts.toNat none 1 backoff.delays =
      (waitReady state backoff).bind fun state result => .done state (some result) := by
  refine ⟨fun failures ports first within => waitReady_findsPorts first within, fun never => ?_,
    Backoff.budget_nanoseconds, Backoff.getElem?_delays, Backoff.delays_pairwise, ?_⟩
  · rcases firstAnswer_or_failed answers backoff.attempts.toNat with ⟨failures, ports, within, first⟩ | failed
    · exact absurd ⟨failures, ports, first, within⟩ never
    · exact waitReady_givesUp failed
  · apply counted_eq 1
    rw [Backoff.length_delays]
    omega

/-- A service that is not ready for its first three calls, under the schedule that is used by default. -/
theorem waitReady_default_schedule : Backoff.default.attempts.toNat < 2 ^ 31 - 2 ∧
    Readiness.FindsPorts (waitReady () .default)
      (fun calls => if calls < 3 then .error (.status .unavailable "injected") else .ok [])
      Backoff.default.delays 3 [] := by
  have few : Backoff.default.attempts.toNat < 2 ^ 31 - 2 := by decide
  refine ⟨few, (waitReady_follows_schedule () .default _ few).1 3 [] ⟨rfl, ?_⟩ (by decide)⟩
  intro earlier before
  exact ⟨_, if_pos before⟩

end NicFlow
