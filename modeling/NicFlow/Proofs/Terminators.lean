import NicFlow.Proofs.ActionAcceptance

/-! Where the terminators of an accepted rule stand. One is at the end of each list that is not empty. Others
may stand before it: they are elements like all that carry nothing, and acceptance does not see them. -/

namespace NicFlow.Validation

open Log Traced

variable {scope : Scope} {rule : FlowRule}

/-- The last of the types, if there is one, is the terminator. -/
def EndsWith (terminator : String) (types : List String) : Prop :=
  ∀ last, types.getLast? = some last → last = terminator

/-- And it is none of the others. -/
def EndsOnceWith (terminator : String) (types : List String) : Prop :=
  EndsWith terminator types ∧ terminator ∉ types.dropLast

def patternTypes (rule : FlowRule) : List String := rule.pattern.map (·.type)

def actionTypes (rule : FlowRule) : List String := rule.action.map (·.type)

def Accepted (scope : Scope) (rule : FlowRule) : Prop :=
  ∃ validated, (validateRule scope rule).result = .ok validated

private theorem accepted_iff : Accepted scope rule ↔ Acceptable scope rule := by
  rw [Accepted, (failsFirst_validateRule scope rule).ok_iff, violations_eq_nil_iff]

private theorem endsWith_map_iff {α : Type} {elements : List α} {type : α → String} {terminator : String} :
    EndsWith terminator (elements.map type) ↔ ∀ last, elements.getLast? = some last → type last = terminator := by
  simp [EndsWith, List.getLast?_map]

private theorem Acceptable.endsPattern (acceptable : Acceptable scope rule) :
    EndsWith ItemType.terminator.name (patternTypes rule) := by
  apply endsWith_map_iff.mpr
  intro last ended
  have named := List.find?_some (acceptable.patternEnds last ended)
  exact (of_decide_eq_true named).symm

private theorem Acceptable.endsActions (acceptable : Acceptable scope rule) :
    EndsWith ActionType.terminator.name (actionTypes rule) := by
  apply endsWith_map_iff.mpr
  intro last ended
  exact ActionType.ofName?_eq_some_iff.mp (acceptable.actionsEnd last ended)

section Insertion

variable {α : Type} {elements before after : List α} {marker : α}

private theorem forall_mem_insert (accepts : α → Prop) (split : elements = before ++ after) (marked : accepts marker) :
    (∀ element ∈ before ++ marker :: after, accepts element) ↔ ∀ element ∈ elements, accepts element := by
  rw [split, List.forall_mem_append, List.forall_mem_append, List.forall_mem_cons]
  exact and_congr_right fun _ => and_iff_right marked

private theorem getLast?_insert (split : elements = before ++ after) (follows : after ≠ []) :
    (before ++ marker :: after).getLast? = elements.getLast? := by
  rw [split, List.getLast?_append_of_ne_nil before (List.cons_ne_nil marker after),
    List.getLast?_append_of_ne_nil before follows]
  cases after with
  | nil => exact absurd rfl follows
  | cons next rest => exact List.getLast?_cons_cons

end Insertion

private theorem acceptsItem_terminator {marker : PatternItem} (marks : marker.type = ItemType.terminator.name) :
    ∃ validated, AcceptsItem marker validated := by
  have known : ItemType.ofName? marker.type = some .terminator := by
    rw [marks]
    decide
  exact ⟨_, .inert known rfl⟩

private theorem acceptsAction_endAction : ∃ validated, AcceptsAction endAction validated := by
  have known : ActionType.ofName? endAction.type = some .terminator := by decide
  exact ⟨_, .bare known rfl (by decide)⟩

private theorem acceptable_insert_item {before after : List PatternItem} {marker : PatternItem}
    (split : rule.pattern = before ++ after) (follows : after ≠ []) (marks : marker.type = ItemType.terminator.name) :
    Acceptable scope { rule with pattern := before ++ marker :: after } ↔ Acceptable scope rule := by
  have items := forall_mem_insert (fun item => ∃ validated, AcceptsItem item validated) split
    (acceptsItem_terminator marks)
  have last : (before ++ marker :: after).getLast? = rule.pattern.getLast? := getLast?_insert split follows
  constructor
  · intro acceptable
    exact { acceptable with
      items := items.mp acceptable.items
      patternEnds := last ▸ acceptable.patternEnds }
  · intro acceptable
    exact { acceptable with
      items := items.mpr acceptable.items
      patternEnds := last.symm ▸ acceptable.patternEnds }

private theorem acceptable_insert_action {before after : List RuleAction} (split : rule.action = before ++ after)
    (follows : after ≠ []) :
    Acceptable scope { rule with action := before ++ endAction :: after } ↔ Acceptable scope rule := by
  have actions := forall_mem_insert (fun action => ∃ validated, AcceptsAction action validated) split
    acceptsAction_endAction
  have last : (before ++ endAction :: after).getLast? = rule.action.getLast? := getLast?_insert split follows
  have acts : rule.action ≠ [] := by
    rw [split]
    exact List.append_ne_nil_of_right_ne_nil before follows
  have actsInserted : before ++ endAction :: after ≠ [] :=
    List.append_ne_nil_of_right_ne_nil before (List.cons_ne_nil endAction after)
  constructor
  · intro acceptable
    exact { acceptable with
      acts := fun _ => acts
      actions := actions.mp acceptable.actions
      actionsEnd := last ▸ acceptable.actionsEnd }
  · intro acceptable
    exact { acceptable with
      acts := fun _ => actsInserted
      actions := actions.mpr acceptable.actions
      actionsEnd := last.symm ▸ acceptable.actionsEnd }

/-- The terminator is the last type of both lists of an accepted rule, and is overlooked before that. -/
theorem terminator_stands_last (scope : Scope) (rule : FlowRule) :
    (Accepted scope rule →
      EndsWith ItemType.terminator.name (patternTypes rule) ∧
      EndsWith ActionType.terminator.name (actionTypes rule) ∧
      (scope = .node → rule.action ≠ [])) ∧
    (∀ before after marker, rule.pattern = before ++ after → after ≠ [] → marker.type = ItemType.terminator.name →
      (Accepted scope { rule with pattern := before ++ marker :: after } ↔ Accepted scope rule)) ∧
    ∀ before after, rule.action = before ++ after → after ≠ [] →
      (Accepted scope { rule with action := before ++ endAction :: after } ↔ Accepted scope rule) := by
  simp only [accepted_iff]
  refine ⟨?_, ?_, ?_⟩
  · intro acceptable
    exact ⟨acceptable.endsPattern, acceptable.endsActions, acceptable.acts⟩
  · intro before after marker split follows marks
    exact acceptable_insert_item split follows marks
  · intro before after split follows
    exact acceptable_insert_action split follows

def endMarker : PatternItem := ⟨ItemType.terminator.name, none, none, none⟩

def endedRule : FlowRule where
  portId := 0
  pattern := [⟨ItemType.void.name, none, none, none⟩, endMarker]
  action := [⟨ActionType.drop.name, none⟩, endAction]
  attr := none

/-- All that it says stands after a terminator. -/
def interruptedRule : FlowRule where
  portId := 0
  pattern := endMarker :: endedRule.pattern
  action := endAction :: endedRule.action
  attr := none

theorem terminator_stands_last_interrupted :
    Accepted .node interruptedRule ∧
      EndsWith ItemType.terminator.name (patternTypes interruptedRule) ∧
      EndsWith ActionType.terminator.name (actionTypes interruptedRule) := by
  have ended : Accepted .node endedRule := ⟨_, rfl⟩
  have ignored : Accepted .node { endedRule with pattern := endMarker :: endedRule.pattern } :=
    ((terminator_stands_last .node endedRule).2.1 [] endedRule.pattern endMarker rfl (List.cons_ne_nil _ _) rfl).mpr
      ended
  have accepted : Accepted .node interruptedRule :=
    ((terminator_stands_last .node { endedRule with pattern := endMarker :: endedRule.pattern }).2.2 []
      endedRule.action rfl (List.cons_ne_nil _ _)).mpr ignored
  obtain ⟨pattern, actions, _⟩ := (terminator_stands_last .node interruptedRule).1 accepted
  exact ⟨accepted, pattern, actions⟩

theorem interrupted_rule_accepted :
    (∀ scope, Accepted scope interruptedRule) ∧
      ¬ EndsOnceWith ItemType.terminator.name (patternTypes interruptedRule) ∧
      ¬ EndsOnceWith ActionType.terminator.name (actionTypes interruptedRule) := by
  refine ⟨?_, ?_, ?_⟩
  · intro scope
    cases scope <;> exact ⟨_, rfl⟩
  · intro ends
    exact ends.2 List.mem_cons_self
  · intro ends
    exact ends.2 List.mem_cons_self

end NicFlow.Validation
