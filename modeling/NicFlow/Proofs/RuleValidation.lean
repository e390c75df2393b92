import NicFlow.Proofs.ElementValidation

/-! Acceptance of whole rules. A rule is accepted if its elements are, one by one, its lists end
where they must and its flags are flags; otherwise the first violation is reported. -/

namespace NicFlow.Validation

open Log Traced

variable {scope : Scope} {rule : FlowRule}

section Violations

variable {γ δ ε τ : Type}

/-- The faults of all elements of a list, each as the error at the position of its element. -/
def placed (faults : γ → List (Nat → FlowError)) (elements : List γ) : List FlowError :=
  elements.zipIdx.flatMap fun (element, position) => (faults element).map (· position)

private theorem placed_eq_nil_iff {faults : γ → List (Nat → FlowError)} {elements : List γ} :
    placed faults elements = [] ↔ ∀ element ∈ elements, faults element = [] := by
  have shifted : ∀ start, (elements.zipIdx start).flatMap (fun (element, position) =>
      (faults element).map (· position)) = [] ↔ ∀ element ∈ elements, faults element = [] := by
    induction elements with
    | nil => simp
    | cons element rest ih =>
      intro start
      rw [List.zipIdx_cons, List.flatMap_cons, List.append_eq_nil_iff, ih, List.map_eq_nil_iff,
        List.forall_mem_cons]
  exact shifted 0

/-- The fault of a list by the type of its last element, which must be the terminator. -/
def endFaults [DecidableEq τ] (terminator : τ) (refuse : τ → FlowError) : Option τ → List FlowError
  | some type => if type = terminator then [] else [refuse type]
  | none => []

def patternEndFaults (pattern : List PatternItem) : List FlowError :=
  endFaults .terminator .patternNotTerminated
    (pattern.getLast?.bind fun item => ItemType.ofName? item.type)

def actionsEndFaults (actions : List RuleAction) : List FlowError :=
  endFaults .terminator .actionsNotTerminated
    (actions.getLast?.bind fun action => ActionType.ofName? action.type)

def absenceFaults (scope : Scope) (actions : List RuleAction) : List FlowError :=
  if actions.isEmpty ∧ scope = .node then [.noActions] else []

def flagFaults (flag : String) (value : UInt32) : List FlowError :=
  if value > 1 then [.invalidAttr flag value.toNat] else []

def attributeFaults (attributes : Attributes) : List FlowError :=
  flagFaults "ingress" attributes.ingress ++
    (flagFaults "egress" attributes.egress ++ flagFaults "transfer" attributes.transfer)

/-- All violations of a rule, in the order in which they are looked for. -/
def violations (scope : Scope) (rule : FlowRule) : List FlowError :=
  (placed itemFaults rule.pattern ++ patternEndFaults rule.pattern) ++
    ((absenceFaults scope rule.action ++
        (placed actionFaults rule.action ++ actionsEndFaults rule.action)) ++
      attributeFaults (rule.attr.getD .default))

theorem getLast?_of_forall₂ {related : γ → δ → Prop} {elements : List γ} {values : List δ}
    (all : List.Forall₂ related elements values) {f : γ → Option τ} {g : δ → τ}
    (agree : ∀ element value, related element value → f element = some (g value)) :
    elements.getLast?.bind f = values.getLast?.map g := by
  have same : elements.map f = values.map (some ∘ g) := by
    induction all with
    | nil => rfl
    | cons first _ ih => rw [List.map_cons, List.map_cons, agree _ _ first, ih]; rfl
  have last := congrArg List.getLast? same
  rw [List.getLast?_map, List.getLast?_map] at last
  calc elements.getLast?.bind f = (elements.getLast?.map f).join := by cases elements.getLast? <;> rfl
    _ = (values.getLast?.map (some ∘ g)).join := by rw [last]
    _ = values.getLast?.map g := by cases values.getLast? <;> rfl

private theorem validateItems_ok_iff {pattern : List PatternItem} {items : List ValidatedItem} :
    (forEachFrom validateItem 0 pattern).result = .ok items ↔ List.Forall₂ AcceptsItem pattern items :=
  have uniform : ∀ position item validated,
      (validateItem position item).result = .ok validated ↔ AcceptsItem item validated :=
    fun _ _ _ => validateItem_ok_iff
  forEachFrom_ok_iff uniform 0 _ _

private theorem validateActions_ok_iff {actions : List RuleAction} {validated : List ValidatedAction} :
    (forEachFrom validateAction 0 actions).result = .ok validated ↔
      List.Forall₂ AcceptsAction actions validated :=
  have uniform : ∀ position action validated,
      (validateAction position action).result = .ok validated ↔ AcceptsAction action validated :=
    fun _ _ _ => validateAction_ok_iff
  forEachFrom_ok_iff uniform 0 _ _

private theorem failsFirst_end [DecidableEq τ] (terminator : τ) (refuse : τ → FlowError) (last : Option τ) :
    FailsFirst (match last with
      | some type => if type = terminator then .ok () else .error (refuse type)
      | none => .ok ()) (endFaults terminator refuse last) := by
  cases last with
  | none => exact failsFirst_ok ()
  | some type =>
    by_cases ended : type = terminator
    · simp only [endFaults, if_pos ended]
      exact failsFirst_ok ()
    · simp only [endFaults, if_neg ended]
      exact failsFirst_error _ []

private theorem failsFirst_checkPatternEnd {pattern : List PatternItem} {items : List ValidatedItem}
    (accepted : List.Forall₂ AcceptsItem pattern items) :
    FailsFirst (checkPatternEnd items) (patternEndFaults pattern) := by
  have last := getLast?_of_forall₂ accepted fun _ _ accepts => accepts.follows.type
  have fails := failsFirst_end .terminator .patternNotTerminated (items.getLast?.map (·.type))
  rw [patternEndFaults, last, checkPatternEnd]
  cases ended : items.getLast? with
  | none => simpa only [ended, Option.map_none] using fails
  | some item => simpa only [ended, Option.map_some] using fails

private theorem failsFirst_checkActionsEnd {actions : List RuleAction} {validated : List ValidatedAction}
    (accepted : List.Forall₂ AcceptsAction actions validated) :
    FailsFirst (checkActionsEnd validated) (actionsEndFaults actions) := by
  have last := getLast?_of_forall₂ accepted fun _ _ accepts => accepts.follows.type
  have fails := failsFirst_end .terminator .actionsNotTerminated (validated.getLast?.map (·.type))
  rw [actionsEndFaults, last, checkActionsEnd]
  cases ended : validated.getLast? with
  | none => simpa only [ended, Option.map_none] using fails
  | some action => simpa only [ended, Option.map_some] using fails

theorem failsFirst_validatePattern (pattern : List PatternItem) :
    FailsFirst (validatePattern pattern).result
      (placed itemFaults pattern ++ patternEndFaults pattern) := by
  rw [validatePattern, result_bind, ← List.append_nil (patternEndFaults pattern)]
  refine (failsFirst_forEachFrom failsFirst_validateItem 0 pattern).bind fun items accepted => ?_
  rw [result_bind]
  refine (failsFirst_checkPatternEnd (validateItems_ok_iff.mp accepted)).bind fun _ _ => ?_
  exact failsFirst_ok items

private theorem failsFirst_validateActions (scope : Scope) (actions : List RuleAction) :
    FailsFirst (validateActions scope actions).result
      (absenceFaults scope actions ++ (placed actionFaults actions ++ actionsEndFaults actions)) := by
  unfold validateActions absenceFaults
  split
  · exact failsFirst_error _ _
  · rw [List.nil_append, result_bind, ← List.append_nil (actionsEndFaults actions)]
    refine (failsFirst_forEachFrom failsFirst_validateAction 0 actions).bind fun validated accepted => ?_
    rw [result_bind]
    refine (failsFirst_checkActionsEnd (validateActions_ok_iff.mp accepted)).bind fun _ _ => ?_
    exact failsFirst_ok validated

theorem failsFirst_checkFlag (flag : String) (value : UInt32) :
    FailsFirst (checkFlag flag value) (flagFaults flag value) := by
  unfold checkFlag flagFaults
  split
  · exact failsFirst_error _ []
  · exact failsFirst_ok ()

theorem failsFirst_validateAttributes (attributes : Attributes) :
    FailsFirst (validateAttributes attributes) (attributeFaults attributes) :=
  (failsFirst_checkFlag _ _).bind fun _ _ =>
    (failsFirst_checkFlag _ _).bind fun _ _ => failsFirst_checkFlag _ _

theorem failsFirst_validateRule (scope : Scope) (rule : FlowRule) :
    FailsFirst (validateRule scope rule).result (violations scope rule) := by
  rw [validateRule, result_within, result_bind]
  refine (failsFirst_validatePattern rule.pattern).bind fun pattern _ => ?_
  rw [result_bind]
  refine (failsFirst_validateActions scope rule.action).bind fun actions _ => ?_
  rw [result_bind, ← List.append_nil (attributeFaults _)]
  exact (failsFirst_validateAttributes _).bind fun _ _ => failsFirst_ok _

end Violations

section Acceptance

/-- Everything that is asked of a rule: of its elements one by one, of the ends of its lists, and of
its flags. -/
structure Acceptable (scope : Scope) (rule : FlowRule) : Prop where
  items : ∀ item ∈ rule.pattern, ∃ validated, AcceptsItem item validated
  patternEnds : ∀ last, rule.pattern.getLast? = some last →
    ItemType.ofName? last.type = some .terminator
  acts : scope = .node → rule.action ≠ []
  actions : ∀ action ∈ rule.action, ∃ validated, AcceptsAction action validated
  actionsEnd : ∀ last, rule.action.getLast? = some last →
    ActionType.ofName? last.type = some .terminator
  ingress : (rule.attr.getD .default).ingress ≤ 1
  egress : (rule.attr.getD .default).egress ≤ 1
  transfer : (rule.attr.getD .default).transfer ≤ 1

/-- The rule that validation makes of a rule: element by element, with the attributes it is given. -/
structure ValidatedAs (rule : FlowRule) (validated : ValidatedRule) : Prop where
  portId : validated.portId = rule.portId
  attr : validated.attr = rule.attr.getD .default
  items : List.Forall₂ AcceptsItem rule.pattern validated.pattern
  itemsFollow : List.Forall₂ ItemFollows rule.pattern validated.pattern
  actions : List.Forall₂ AcceptsAction rule.action validated.action
  actionsFollow : List.Forall₂ ActionFollows rule.action validated.action
  /-- The verdict is reserved if an item has a type without field rules, or an action has a
  configuration without. -/
  verdict : validated.verdict = .acceptedUnvalidated ↔
    (∃ item ∈ validated.pattern, ∃ shape, item.type.shape? = some shape ∧ shape.isStrict = false) ∨
    ∃ action ∈ validated.action, ∃ conf, action.conf = some conf ∧ conf.shape.isStrict = false

private theorem endFaults_eq_nil_iff {τ : Type} [DecidableEq τ] {terminator : τ} {refuse : τ → FlowError}
    {last : Option τ} :
    endFaults terminator refuse last = [] ↔ ∀ type, last = some type → type = terminator := by
  cases last <;> simp [endFaults]

private theorem patternEndFaults_eq_nil_iff {pattern : List PatternItem}
    (accepted : ∀ item ∈ pattern, ∃ validated, AcceptsItem item validated) :
    patternEndFaults pattern = [] ↔ ∀ last, pattern.getLast? = some last →
      ItemType.ofName? last.type = some .terminator := by
  rw [patternEndFaults, endFaults_eq_nil_iff]
  cases ended : pattern.getLast? with
  | none => simp
  | some last =>
    obtain ⟨validated, accepts⟩ := accepted last (List.mem_of_getLast? ended)
    simp [accepts.follows.type]

private theorem actionsEndFaults_eq_nil_iff {actions : List RuleAction}
    (accepted : ∀ action ∈ actions, ∃ validated, AcceptsAction action validated) :
    actionsEndFaults actions = [] ↔ ∀ last, actions.getLast? = some last →
      ActionType.ofName? last.type = some .terminator := by
  rw [actionsEndFaults, endFaults_eq_nil_iff]
  cases ended : actions.getLast? with
  | none => simp
  | some last =>
    obtain ⟨validated, accepts⟩ := accepted last (List.mem_of_getLast? ended)
    simp [accepts.follows.type]

private theorem absenceFaults_eq_nil_iff {actions : List RuleAction} :
    absenceFaults scope actions = [] ↔ (scope = .node → actions ≠ []) := by
  cases scope <;> cases actions <;> simp [absenceFaults]

private theorem flagFaults_eq_nil_iff {flag : String} {value : UInt32} :
    flagFaults flag value = [] ↔ value ≤ 1 := by
  simp [flagFaults, UInt32.not_lt]

private theorem attributeFaults_eq_nil_iff {attributes : Attributes} :
    attributeFaults attributes = [] ↔
      attributes.ingress ≤ 1 ∧ attributes.egress ≤ 1 ∧ attributes.transfer ≤ 1 := by
  simp only [attributeFaults, List.append_eq_nil_iff, flagFaults_eq_nil_iff]

theorem violations_eq_nil_iff : violations scope rule = [] ↔ Acceptable scope rule := by
  simp only [violations, List.append_eq_nil_iff, placed_eq_nil_iff, itemFaults_eq_nil_iff,
    actionFaults_eq_nil_iff, absenceFaults_eq_nil_iff, attributeFaults_eq_nil_iff]
  constructor
  · rintro ⟨⟨items, patternEnds⟩, ⟨acts, actions, actionsEnd⟩, ingress, egress, transfer⟩
    exact ⟨items, (patternEndFaults_eq_nil_iff items).mp patternEnds, acts, actions,
      (actionsEndFaults_eq_nil_iff actions).mp actionsEnd, ingress, egress, transfer⟩
  · intro acceptable
    refine ⟨⟨acceptable.items, ?_⟩, ⟨acceptable.acts, acceptable.actions, ?_⟩,
      acceptable.ingress, acceptable.egress, acceptable.transfer⟩
    · exact (patternEndFaults_eq_nil_iff acceptable.items).mpr acceptable.patternEnds
    · exact (actionsEndFaults_eq_nil_iff acceptable.actions).mpr acceptable.actionsEnd

/-- What a rule is validated as, in terms of its elements and of the checks of the whole. -/
theorem validateRule_ok_iff {validated : ValidatedRule} :
    (validateRule scope rule).result = .ok validated ↔
      (validated.portId = rule.portId ∧ validated.attr = rule.attr.getD .default ∧
        List.Forall₂ AcceptsItem rule.pattern validated.pattern ∧
        List.Forall₂ AcceptsAction rule.action validated.action) ∧
      checkPatternEnd validated.pattern = .ok () ∧ (scope = .node → rule.action ≠ []) ∧
      checkActionsEnd validated.action = .ok () ∧ validateAttributes validated.attr = .ok () := by
  have acted : ∀ actions, (validateActions scope rule.action).result = .ok actions ↔
      (scope = .node → rule.action ≠ []) ∧ List.Forall₂ AcceptsAction rule.action actions ∧
        checkActionsEnd actions = .ok () := by
    intro actions
    unfold validateActions
    split
    next absent => simp_all
    next present =>
      simp only [bind_ok_iff, validateActions_ok_iff, result_of, result_pure]
      simp only [List.isEmpty_iff, not_and'] at present
      constructor
      · rintro ⟨_, related, _, ended, same⟩
        cases same
        exact ⟨present, related, ended⟩
      · rintro ⟨_, related, ended⟩
        exact ⟨actions, related, (), ended, rfl⟩
  simp only [validateRule, result_within, bind_ok_iff, validatePattern, validateItems_ok_iff, acted,
    result_of, result_pure]
  constructor
  · rintro ⟨_, ⟨items, related, _, ended, same⟩, actions, ⟨acts, relatedActions, endedActions⟩,
      _, flags, whole⟩
    cases same
    cases whole
    exact ⟨⟨rfl, rfl, related, relatedActions⟩, ended, acts, endedActions, flags⟩
  · obtain ⟨portId, attr, pattern, action⟩ := validated
    rintro ⟨⟨rfl, rfl, related, relatedActions⟩, ended, acts, endedActions, flags⟩
    exact ⟨pattern, ⟨pattern, related, (), ended, rfl⟩, action, ⟨acts, relatedActions, endedActions⟩,
      (), flags, rfl⟩

private theorem verdict_eq_iff {validated : ValidatedRule} (items : List.Forall₂ ItemFollows rule.pattern validated.pattern)
    (actions : List.Forall₂ ActionFollows rule.action validated.action) :
    validated.verdict = .acceptedUnvalidated ↔
      (∃ item ∈ validated.pattern, ∃ shape, item.type.shape? = some shape ∧ shape.isStrict = false) ∨
      ∃ action ∈ validated.action, ∃ conf, action.conf = some conf ∧ conf.shape.isStrict = false := by
  have item : ∀ item ∈ validated.pattern, item.verdict = .acceptedUnvalidated ↔
      ∃ shape, item.type.shape? = some shape ∧ shape.isStrict = false := by
    intro item member
    obtain ⟨origin, _, follows⟩ := exists_of_forall₂ items member
    exact follows.verdict
  have action : ∀ action ∈ validated.action, action.verdict = .acceptedUnvalidated ↔
      ∃ conf, action.conf = some conf ∧ conf.shape.isStrict = false := by
    intro action member
    obtain ⟨origin, _, follows⟩ := exists_of_forall₂ actions member
    exact follows.verdict
  have weakest : validated.verdict = .acceptedUnvalidated ↔
      (∃ item ∈ validated.pattern, item.verdict = .acceptedUnvalidated) ∨
      ∃ action ∈ validated.action, action.verdict = .acceptedUnvalidated := by
    simp only [ValidatedRule.verdict, List.any_eq_true, decide_eq_true_eq]
    split
    next reserved => exact iff_of_true rfl reserved
    next full => exact iff_of_false nofun full
  rw [weakest]
  refine or_congr (exists_congr fun each => ?_) (exists_congr fun each => ?_)
  · exact and_congr_right (item each)
  · exact and_congr_right (action each)

private theorem validatedAs_of_accepted {validated : ValidatedRule}
    (accepted : (validateRule scope rule).result = .ok validated) : ValidatedAs rule validated := by
  obtain ⟨⟨portId, attr, items, actions⟩, _⟩ := validateRule_ok_iff.mp accepted
  have itemsFollow := items.imp fun _ _ accepts => accepts.follows
  have actionsFollow := actions.imp fun _ _ accepts => accepts.follows
  exact ⟨portId, attr, items, itemsFollow, actions, actionsFollow,
    verdict_eq_iff itemsFollow actionsFollow⟩

/-- Validation is pointwise, complete and reports the first violation. -/
theorem rule_validation_exact (scope : Scope) (rule : FlowRule) :
    ((∃ validated, (validateRule scope rule).result = .ok validated) ↔ Acceptable scope rule) ∧
    (∀ error, (validateRule scope rule).result = .error error ↔
      (violations scope rule).head? = some error) ∧
    (∀ item,
      (∀ index validated, (validateItem index item).result = .ok validated ↔ AcceptsItem item validated) ∧
      (itemFaults item = [] ↔ ∃ validated, AcceptsItem item validated) ∧
      ∀ fault ∈ itemFaults item, ∀ index, blamed? (fault index) = some (.item index)) ∧
    (∀ action,
      (∀ index validated,
        (validateAction index action).result = .ok validated ↔ AcceptsAction action validated) ∧
      (actionFaults action = [] ↔ ∃ validated, AcceptsAction action validated) ∧
      ∀ fault ∈ actionFaults action, ∀ index, blamed? (fault index) = some (.action index)) ∧
    ∀ validated, (validateRule scope rule).result = .ok validated → ValidatedAs rule validated := by
  have fails := failsFirst_validateRule scope rule
  refine ⟨?_, fails, fun item => ?_, fun action => ?_, fun validated => validatedAs_of_accepted⟩
  · rw [fails.ok_iff, violations_eq_nil_iff]
  · exact ⟨fun _ _ => validateItem_ok_iff, itemFaults_eq_nil_iff, fun _ => blamed?_of_itemFaults⟩
  · exact ⟨fun _ _ => validateAction_ok_iff, actionFaults_eq_nil_iff, fun _ => blamed?_of_actionFaults⟩

/-- A rule with two violations: its actions do not end, and a flag is 2. -/
def unfinishedRule : FlowRule where
  portId := 0
  pattern := []
  action := [⟨"RTE_FLOW_ACTION_TYPE_DROP", none⟩]
  attr := some ⟨0, 0, 2, 0, 0, 0⟩

theorem rule_validation_exact_unfinished :
    (validateRule .node unfinishedRule).result = .error (.actionsNotTerminated .drop) :=
  ((rule_validation_exact .node unfinishedRule).2.1 _).mpr (by rfl)

end Acceptance

end NicFlow.Validation
