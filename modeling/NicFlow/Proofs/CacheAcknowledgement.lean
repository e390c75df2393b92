import Mathlib.Data.List.Induction
import NicFlow.Proofs.PassDiscipline
import NicFlow.Proofs.RemoteAnswers

/-! The cache is what the service acknowledged: after any passes it holds exactly the
flows whose creation was acknowledged and whose destruction was not acknowledged since. What was
acknowledged is read from the answered calls alone. -/

namespace NicFlow

theorem lasting_concat {α : Type} {puts takes : α → Prop} {history : List α} {last : α} :
    (∃ earlier event later, history ++ [last] = earlier ++ event :: later ∧ puts event ∧
        ∀ other ∈ later, ¬ takes other) ↔
      puts last ∨ (∃ earlier event later, history = earlier ++ event :: later ∧ puts event ∧
        ∀ other ∈ later, ¬ takes other) ∧ ¬ takes last := by
  constructor
  · rintro ⟨earlier, event, later, split, put, untaken⟩
    rcases List.eq_nil_or_concat later with rfl | ⟨rest, final, rfl⟩
    · obtain ⟨_, same⟩ := List.append_inj' split rfl
      cases same
      exact Or.inl put
    · rw [List.concat_eq_append, ← List.cons_append, ← List.append_assoc] at split
      obtain ⟨rfl, same⟩ := List.append_inj' split rfl
      cases same
      rw [List.concat_eq_append] at untaken
      refine Or.inr ⟨⟨earlier, event, rest, rfl, put, ?_⟩, ?_⟩
      · exact fun other inside => untaken other (List.mem_append_left _ inside)
      · exact untaken last (List.mem_append_right _ List.mem_cons_self)
  · rintro (put | ⟨⟨earlier, event, later, rfl, put, untaken⟩, kept⟩)
    · exact ⟨history, last, [], rfl, put, List.forall_mem_nil _⟩
    · refine ⟨earlier, event, later ++ [last], by simp, put, ?_⟩
      intro other member
      rcases List.mem_append.mp member with inside | final
      · exact untaken other inside
      · rw [List.mem_singleton.mp final]
        exact kept

inductive Deed where
  | created (record : FlowRecord)
  | destroyed (fingerprint : Fingerprint)
  | nothing

/-- A flow was created under its fingerprint, and not destroyed since. -/
def Standing (deeds : List Deed) (fingerprint : Fingerprint) (record : FlowRecord) : Prop :=
  ∃ earlier deed later, deeds = earlier ++ deed :: later ∧
    (deed = .created record ∧ record.fingerprint = fingerprint) ∧
    ∀ other ∈ later, ¬ other = .destroyed fingerprint

/-- What an answered call did after the given deeds. A destruction undoes a standing creation
for the same port that was acknowledged with the same id. -/
inductive Acknowledges (deeds : List Deed) : Answered → Deed → Prop where
  | created {request flowId} :
      Acknowledges deeds ⟨.create request, .ok flowId⟩ (.created { flowId, rule := request })
  | destroyed {fingerprint record} (standing : Standing deeds fingerprint record) :
      Acknowledges deeds ⟨.destroy record.rule.portId record.flowId, .ok ()⟩ (.destroyed fingerprint)
  | listed {ports} : Acknowledges deeds ⟨.listPorts, .ok ports⟩ .nothing
  | refused {call error} : Acknowledges deeds ⟨call, .error error⟩ .nothing

inductive Recounts : List Answered → List Deed → Prop where
  | none : Recounts [] []
  | next {calls deeds answered deed} (recounts : Recounts calls deeds)
      (acknowledges : Acknowledges deeds answered deed) :
      Recounts (calls ++ [answered]) (deeds ++ [deed])

def Current (deeds : List Deed) (cache : FlowCache) : Prop :=
  ∀ fingerprint record, cache.get? fingerprint = some record ↔ Standing deeds fingerprint record

/-- One exchange after the given deeds: what was acknowledged and what became of the cache. -/
structure Moment (deeds : List Deed) (exchange : Exchange FlowCache) (deed : Deed) : Prop where
  acknowledged : Acknowledges deeds exchange.answered deed
  before : Current deeds exchange.before
  after : Current (deeds ++ [deed]) exchange.after
  uncached : ∀ request answer, exchange.answered = ⟨.create request, answer⟩ →
    exchange.before.has (.ofRequest request) = false
  removed : ∀ portId flowId answer, exchange.answered = ⟨.destroy portId flowId, answer⟩ →
    ∃ fingerprint record, Standing deeds fingerprint record ∧
      portId = record.rule.portId ∧ flowId = record.flowId ∧
      match answer with
      | .ok () => deed = .destroyed fingerprint ∧ exchange.after.get? fingerprint = none ∧
          ∀ other, other ≠ fingerprint → exchange.after.get? other = exchange.before.get? other
      | .error _ => exchange.after = exchange.before

private theorem standing_concat {deeds : List Deed} {deed : Deed} {fingerprint : Fingerprint}
    {record : FlowRecord} :
    Standing (deeds ++ [deed]) fingerprint record ↔
      (deed = .created record ∧ record.fingerprint = fingerprint) ∨
        Standing deeds fingerprint record ∧ ¬ deed = .destroyed fingerprint := lasting_concat

private theorem current_nil : Current [] .empty := by
  intro fingerprint record
  constructor
  · intro impossible
    cases impossible
  · rintro ⟨earlier, _, _, split, _⟩
    simp at split

section Deeds

variable {deeds : List Deed} {cache : FlowCache} {request : CreateRequest} {flowId : UInt32}
  {fingerprint : Fingerprint} {record : FlowRecord}

private theorem current_nothing (current : Current deeds cache) :
    Current (deeds ++ [.nothing]) cache := by
  intro fingerprint record
  rw [standing_concat, ← current fingerprint record]
  simp only [reduceCtorEq, false_and, false_or, not_false_eq_true, and_true]

private theorem current_created (current : Current deeds cache)
    (absent : cache.has (.ofRequest request) = false) :
    Current (deeds ++ [.created { flowId, rule := request }])
      (cache.add (.ofRequest request) { flowId, rule := request }) := by
  intro fingerprint record
  rw [standing_concat, ← current fingerprint record, FlowCache.get?_add absent]
  simp only [Deed.created.injEq, reduceCtorEq, not_false_eq_true, and_true]
  split
  next keyed =>
    rw [keyed, FlowCache.has_eq_false_iff_get?.mp absent, Option.some.injEq]
    constructor
    · rintro rfl
      exact Or.inl ⟨rfl, rfl⟩
    · rintro (⟨same, _⟩ | impossible)
      · exact same
      · cases impossible
  next other =>
    constructor
    · exact Or.inr
    · rintro (⟨rfl, keyed⟩ | held)
      · exact absurd keyed.symm other
      · exact held

private theorem current_destroyed (current : Current deeds cache) :
    Current (deeds ++ [.destroyed fingerprint]) (cache.delete fingerprint) := by
  intro other record
  rw [standing_concat, ← current other record, FlowCache.get?_delete]
  simp only [Deed.destroyed.injEq, reduceCtorEq, false_and, false_or]
  split
  next same =>
    subst same
    simp
  next different => exact ⟨fun held => ⟨held, Ne.symm different⟩, And.left⟩

end Deeds

open Reconciliation

private theorem moment_of_lawful {deeds : List Deed} {exchange : Exchange FlowCache}
    (current : Current deeds exchange.before) (lawful : Lawful exchange) :
    ∃ deed, Moment deeds exchange deed := by
  cases lawful with
  | refused uses error =>
    refine ⟨.nothing, .refused, current, current_nothing current, ?_, ?_⟩
    · intro request answer same
      cases same
      cases uses with
      | create absent => exact absent
    · intro portId flowId answer same
      cases same
      cases uses with
      | destroy found => exact ⟨_, _, (current _ _).mp found, rfl, rfl, rfl⟩
  | accepted uses reply =>
    cases uses with
    | list =>
      refine ⟨.nothing, .listed, current, current_nothing current, ?_, ?_⟩
      · intro _ _ impossible
        cases impossible
      · intro _ _ _ impossible
        cases impossible
    | create absent =>
      refine ⟨_, .created, current, current_created current absent, ?_, ?_⟩
      · intro request answer same
        cases same
        exact absent
      · intro _ _ _ impossible
        cases impossible
    | @destroy fingerprint record found =>
      have standing := (current _ _).mp found
      refine ⟨_, .destroyed standing, current, current_destroyed current, ?_, ?_⟩
      · intro _ _ impossible
        cases impossible
      · intro portId flowId answer same
        cases same
        refine ⟨fingerprint, record, standing, rfl, rfl, rfl, ?_, ?_⟩
        · rw [FlowCache.get?_delete, if_pos rfl]
        · intro other different
          rw [FlowCache.get?_delete, if_neg different]

private theorem recounts_of_chain {trace : List (Exchange FlowCache)} {cache : FlowCache}
    (chain : Chain .empty trace cache) (lawful : ∀ exchange ∈ trace, Lawful exchange) :
    ∃ deeds, Recounts (answeredCalls trace) deeds ∧ Current deeds cache ∧
      ∀ earlier exchange later, trace = earlier ++ exchange :: later →
        ∃ done deed rest, deeds = done ++ deed :: rest ∧
          Recounts (answeredCalls earlier) done ∧ Moment done exchange deed := by
  induction trace using List.reverseRecOn generalizing cache with
  | nil =>
    cases chain
    refine ⟨[], .none, current_nil, ?_⟩
    intro earlier _ _ split
    simp at split
  | append_singleton trace exchange ih =>
    obtain ⟨_, begins, rfl, rfl⟩ := Chain.append_iff.mp chain
    obtain ⟨deeds, recounts, current, moments⟩ :=
      ih begins fun other inside => lawful other (List.mem_append_left _ inside)
    obtain ⟨deed, moment⟩ :=
      moment_of_lawful current (lawful exchange (List.mem_append_right _ List.mem_cons_self))
    refine ⟨deeds ++ [deed], ?_, moment.after, ?_⟩
    · rw [answeredCalls, List.map_append]
      exact recounts.next moment.acknowledged
    · intro earlier chosen later split
      rcases List.eq_nil_or_concat later with rfl | ⟨rest, final, rfl⟩
      · obtain ⟨rfl, same⟩ := List.append_inj' split rfl
        cases same
        exact ⟨deeds, deed, [], rfl, recounts, moment⟩
      · rw [List.concat_eq_append, ← List.cons_append, ← List.append_assoc] at split
        obtain ⟨same, _⟩ := List.append_inj' split rfl
        obtain ⟨done, chosenDeed, others, rfl, recounts, moment⟩ := moments _ _ _ same
        exact ⟨done, chosenDeed, others ++ [deed], by simp, recounts, moment⟩

/-- Any number of passes, one after the other, that begin with an empty cache. -/
inductive Passes : List (Exchange FlowCache) → FlowCache → Prop where
  | none : Passes [] .empty
  | next {trace cache exchanges after result} (passes : Passes trace cache) (lookup : VfLookup)
      (rules : List FlowRule) (ends : (pass lookup cache rules).Ends exchanges after result) :
      Passes (trace ++ exchanges) after

private theorem Passes.chain {trace : List (Exchange FlowCache)} {cache : FlowCache}
    (passes : Passes trace cache) : Chain .empty trace cache := by
  induction passes with
  | none => rfl
  | next passes _ _ ends ih =>
    have chain := ends.chain
    rw [shown_pass] at chain
    exact Chain.append_iff.mpr ⟨_, ih, chain⟩

private theorem Passes.lawful {trace : List (Exchange FlowCache)} {cache : FlowCache}
    (passes : Passes trace cache) : ∀ exchange ∈ trace, Lawful exchange := by
  induction passes with
  | none => exact List.forall_mem_nil _
  | next passes _ _ ends ih =>
    intro exchange member
    rcases List.mem_append.mp member with earlier | later
    · exact ih exchange earlier
    · exact (pass_disciplined ..).lawful ends exchange later

/-- After any passes the cache holds a record exactly for the flows whose creation was
acknowledged and not undone since. At every moment of every pass no flow that is in the cache is
created, and a destruction names the port and the id of the acknowledged creation that it undoes;
once it is acknowledged, that record and no other is gone. Over a connection an acknowledgement is
a message without an error. -/
theorem cache_follows_acknowledgements {trace : List (Exchange FlowCache)} {cache : FlowCache}
    (passes : Passes trace cache) :
    (∃ deeds, Recounts (answeredCalls trace) deeds ∧ Current deeds cache ∧
      ∀ earlier exchange later, trace = earlier ++ exchange :: later →
        ∃ done deed rest, deeds = done ++ deed :: rest ∧
          Recounts (answeredCalls earlier) done ∧ Moment done exchange deed) ∧
    (∀ request response flowId,
      Remote.answerOf (.create request) response = .ok flowId ↔ ∃ bytes error,
        response = .message bytes ∧ Remote.createdMessage.decode bytes = .ok (error, flowId, ()) ∧
          Remote.NoError error) ∧
    (∀ portId flowId response,
      Remote.answerOf (.destroy portId flowId) response = .ok () ↔ ∃ bytes error,
        response = .message bytes ∧ Remote.emptyMessage.decode bytes = .ok (error, ()) ∧
          Remote.NoError error) := by
  refine ⟨?_, ?_, ?_⟩
  · exact recounts_of_chain passes.chain passes.lawful
  · exact fun _ _ _ => Remote.answerOf_create_ok_iff
  · exact fun _ _ _ => Remote.answerOf_destroy_ok_iff

theorem cache_forgets_destroyed_flow :
    ∃ trace cache deeds, Passes trace cache ∧
      answeredCalls trace = [⟨.create dropValidated.toRequest, .ok 7⟩, ⟨.destroy 3 7, .ok ()⟩] ∧
      Recounts (answeredCalls trace) deeds ∧ Current deeds cache ∧ cache.records = [] := by
  have first := Passes.none.next (.ofTable []) [dropRule] (pass_dropRule _ 7)
  have both := first.next (.ofTable []) [] (pass_nil_single _ ⟨7, dropValidated.toRequest⟩)
  obtain ⟨⟨deeds, recounts, current, _⟩, _⟩ := cache_follows_acknowledgements both
  refine ⟨_, _, deeds, both, rfl, recounts, current, ?_⟩
  show eraseKey _ [(_, _)] = []
  simp [eraseKey]

end NicFlow
