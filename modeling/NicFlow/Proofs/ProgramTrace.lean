import NicFlow.Service.Program

/-! The ways in which a program can end when its calls may be answered by anything. A run
against one particular service is one of these ways. -/

namespace NicFlow

open Log

structure Answered where
  call : Call
  answer : call.Answer

/-- An answered call, with what the program showed when it was made and after the answer. -/
structure Exchange (σ : Type) where
  before : σ
  answered : Answered
  after : σ

/-- The calls of a run with their answers. -/
def answeredCalls {σ : Type} (exchanges : List (Exchange σ)) : List Answered :=
  exchanges.map Exchange.answered

/-- Each exchange begins with the state that the one before it left. -/
def Chain {σ : Type} : σ → List (Exchange σ) → σ → Prop
  | start, [], final => start = final
  | start, exchange :: rest, final => exchange.before = start ∧ Chain exchange.after rest final

theorem Chain.append_iff {σ : Type} {start final : σ} {first rest : List (Exchange σ)} :
    Chain start (first ++ rest) final ↔ ∃ middle, Chain start first middle ∧ Chain middle rest final := by
  induction first generalizing start with
  | nil => simp [Chain]
  | cons exchange first ih => simp only [List.cons_append, Chain, ih, exists_and_left, and_assoc]

namespace Program

variable {σ α β ε : Type}

/-- The state that a program shows next. -/
def shown : Program σ α → σ
  | .done state _ => state
  | .report _ rest => rest.shown
  | .sleep _ rest => rest.shown
  | .call state _ _ => state

/-- A program ends after the given exchanges, whatever gave the answers. -/
inductive Ends : Program σ α → List (Exchange σ) → σ → α → Prop where
  | done {state value} : Ends (.done state value) [] state value
  | report {event rest exchanges state value} (ends : Ends rest exchanges state value) :
      Ends (.report event rest) exchanges state value
  | sleep {duration rest exchanges state value} (ends : Ends rest exchanges state value) :
      Ends (.sleep duration rest) exchanges state value
  | call {before request next exchanges state value} (answer : Call.Answer request)
      (ends : Ends (next answer) exchanges state value) :
      Ends (.call before request next)
        (⟨before, ⟨request, answer⟩, (next answer).shown⟩ :: exchanges) state value

theorem Ends.answered {before after state : σ} {request : Call} {answer : request.Answer}
    {next : request.Answer → Program σ α} {exchanges : List (Exchange σ)} {value : α}
    (shown : (next answer).shown = after) (ends : Ends (next answer) exchanges state value) :
    Ends (.call before request next) (⟨before, ⟨request, answer⟩, after⟩ :: exchanges) state value := by
  rw [← shown]
  exact .call answer ends

theorem Ends.chain {program : Program σ α} {exchanges : List (Exchange σ)} {state : σ} {value : α}
    (ends : Ends program exchanges state value) : Chain program.shown exchanges state := by
  induction ends with
  | done => rfl
  | report _ ih => exact ih
  | sleep _ ih => exact ih
  | call answer _ ih => exact ⟨rfl, ih⟩

/-- Running a program is a way to end it. -/
theorem ends_run {τ : Type} (serve : (call : Call) → τ → call.Answer × τ) (program : Program σ α)
    (service : τ) :
    ∃ exchanges, Ends program exchanges (program.run serve service).state
        (program.run serve service).value ∧
      ∀ exchange ∈ exchanges, ∃ service,
        exchange.answered.answer = (serve exchange.answered.call service).1 := by
  induction program generalizing service with
  | done state value => exact ⟨[], .done, List.forall_mem_nil _⟩
  | report event rest ih =>
    obtain ⟨exchanges, ends, served⟩ := ih service
    exact ⟨exchanges, .report ends, served⟩
  | sleep duration rest ih =>
    obtain ⟨exchanges, ends, served⟩ := ih service
    exact ⟨exchanges, .sleep ends, served⟩
  | call state request next ih =>
    obtain ⟨exchanges, ends, served⟩ := ih (serve request service).1 (serve request service).2
    refine ⟨_ :: exchanges, .call _ ends, ?_⟩
    intro exchange member
    rcases List.mem_cons.mp member with rfl | inside
    · exact ⟨service, rfl⟩
    · exact served exchange inside

section Continuation

variable {program : Program σ α} {exchanges : List (Exchange σ)} {state : σ} {value : β}

private theorem shown_bind (program : Program σ α) {next : σ → α → Program σ β}
    (continues : ∀ state value, (next state value).shown = state) :
    (program.bind next).shown = program.shown := by
  induction program with
  | done state value => exact continues state value
  | report event rest ih => exact ih
  | sleep duration rest ih => exact ih
  | call state request next ih => rfl

theorem shown_andThen (program : Program σ (Except ε α)) {next : σ → α → Program σ (Except ε β)}
    (continues : ∀ state value, (next state value).shown = state) :
    (program.andThen next).shown = program.shown := by
  apply shown_bind
  intro state result
  cases result with
  | ok value => exact continues state value
  | error error => rfl

@[simp] theorem shown_within (span : Span) (program : Program σ α) :
    (program.within span).shown = program.shown := by
  induction program with
  | done state value => rfl
  | report event rest ih => exact ih
  | sleep duration rest ih => exact ih
  | call state request next ih => rfl

@[simp] theorem shown_reportAll (events : List Event) (rest : Program σ α) :
    (reportAll events rest).shown = rest.shown := by
  induction events with
  | nil => rfl
  | cons event events ih => exact ih

@[simp] theorem shown_ofTraced (state : σ) (work : Traced ε α) :
    (ofTraced state work).shown = state := shown_reportAll _ _

private theorem Ends.of_bind {next : σ → α → Program σ β}
    (ends : Ends (program.bind next) exchanges state value) :
    ∃ first middle result rest, Ends program first middle result ∧
      Ends (next middle result) rest state value ∧
      answeredCalls exchanges = answeredCalls first ++ answeredCalls rest := by
  induction program generalizing exchanges with
  | done middle result => exact ⟨[], middle, result, exchanges, .done, ends, rfl⟩
  | report event rest ih =>
    cases ends with
    | report ends =>
      obtain ⟨first, middle, result, later, begins, goesOn, calls⟩ := ih ends
      exact ⟨first, middle, result, later, .report begins, goesOn, calls⟩
  | sleep duration rest ih =>
    cases ends with
    | sleep ends =>
      obtain ⟨first, middle, result, later, begins, goesOn, calls⟩ := ih ends
      exact ⟨first, middle, result, later, .sleep begins, goesOn, calls⟩
  | call before request next ih =>
    cases ends with
    | call answer ends =>
      obtain ⟨first, middle, result, later, begins, goesOn, calls⟩ := ih answer ends
      refine ⟨_ :: first, middle, result, later, .call answer begins, goesOn, ?_⟩
      exact congrArg (List.cons _) calls

/-- A run goes on only from a beginning that did not fail; a failure is the failure of the whole. -/
theorem Ends.of_andThen {program : Program σ (Except ε α)} {next : σ → α → Program σ (Except ε β)}
    {result : Except ε β} (ends : Ends (program.andThen next) exchanges state result) :
    (∃ first error, Ends program first state (.error error) ∧ result = .error error ∧
      answeredCalls exchanges = answeredCalls first) ∨
    (∃ first middle value rest, Ends program first middle (.ok value) ∧
      Ends (next middle value) rest state result ∧
      answeredCalls exchanges = answeredCalls first ++ answeredCalls rest) := by
  obtain ⟨first, middle, outcome, rest, begins, goesOn, calls⟩ := Ends.of_bind ends
  cases outcome with
  | error error =>
    cases goesOn with
    | done => exact Or.inl ⟨first, error, begins, rfl, by simpa [answeredCalls] using calls⟩
  | ok value => exact Or.inr ⟨first, middle, value, rest, begins, goesOn, calls⟩

theorem ends_within (span : Span) {program : Program σ β}
    (ends : Ends program exchanges state value) : Ends (program.within span) exchanges state value := by
  induction ends with
  | done => exact .done
  | report _ ih => exact .report ih
  | sleep _ ih => exact .sleep ih
  | call answer _ ih => exact .answered (shown_within _ _) ih

theorem Ends.of_within {span : Span} {program : Program σ β}
    (ends : Ends (program.within span) exchanges state value) : Ends program exchanges state value := by
  induction program generalizing exchanges with
  | done middle result =>
    cases ends with
    | done => exact .done
  | report event rest ih =>
    cases ends with
    | report ends => exact .report (ih ends)
  | sleep duration rest ih =>
    cases ends with
    | sleep ends => exact .sleep (ih ends)
  | call before request next ih =>
    cases ends with
    | call answer ends =>
      rw [shown_within]
      exact .call answer (ih answer ends)

theorem ends_reportAll (events : List Event) {rest : Program σ β}
    (ends : Ends rest exchanges state value) : Ends (reportAll events rest) exchanges state value := by
  induction events with
  | nil => exact ends
  | cons event events ih => exact .report ih

theorem Ends.of_reportAll {events : List Event} {rest : Program σ β}
    (ends : Ends (reportAll events rest) exchanges state value) : Ends rest exchanges state value := by
  induction events with
  | nil => exact ends
  | cons event events ih =>
    cases ends with
    | report ends => exact ih ends

theorem Ends.of_ofTraced {before : σ} {work : Traced ε α} {result : Except ε α}
    (ends : Ends (ofTraced before work) exchanges state result) :
    exchanges = [] ∧ state = before ∧ result = work.result := by
  cases Ends.of_reportAll ends with
  | done => exact ⟨rfl, rfl, rfl⟩

end Continuation

end Program

end NicFlow
