import NicFlow.Proofs.DevicePass
import NicFlow.Proofs.PassFailure

/-! The check of the rules of a node tells what a pass over them will do. Both fail for the first invalid
rule, and the entries of the check have the fingerprints and the verdicts that the pass goes by. -/

namespace NicFlow

open Log Traced

namespace Check

variable {node : String} {rules : List FlowRule}

def entry (node : String) (index : Nat) (validated : ValidatedRule) : CheckedRule :=
  ⟨node, index, .ofRequest validated.toRequest, validated.verdict⟩

private theorem checkRuleAt_result (node : String) (index : Nat) (rule : FlowRule) :
    (checkRuleAt node index rule).result = (validateAt index rule).result.map (entry node index) := by
  rw [checkRuleAt, result_bind]
  cases (validateAt index rule).result <;> rfl

/-- The check is the validation that a pass begins with, and makes an entry of each rule. -/
theorem checkNodeRules_result (node : String) (rules : List FlowRule) :
    (checkNodeRules node rules).result =
      (forEachFrom validateAt 0 rules).result.map (List.mapIdx (entry node)) := by
  have shifted : ∀ start, (forEachFrom (checkRuleAt node) start rules).result =
      (forEachFrom validateAt start rules).result.map
        (List.mapIdx fun index => entry node (index + start)) := by
    induction rules with
    | nil =>
      intro start
      rfl
    | cons rule rest ih =>
      intro start
      simp only [forEachFrom, result_bind, result_pure, checkRuleAt_result, ih (start + 1)]
      cases (validateAt start rule).result with
      | error error => rfl
      | ok first =>
        cases (forEachFrom validateAt (start + 1) rest).result with
        | error error => rfl
        | ok others =>
          simp [Except.map, Except.bind, List.mapIdx_cons, Nat.add_assoc, Nat.add_comm 1]
  exact shifted 0

theorem checkNodeRules_ok_iff {checked : List CheckedRule} :
    (checkNodeRules node rules).result = .ok checked ↔
      ∃ validated, List.Forall₂ Validates rules validated ∧ checked = validated.mapIdx (entry node) := by
  have uniform : ∀ index rule validated,
      (validateAt index rule).result = .ok validated ↔ Validates rule validated :=
    fun _ _ _ => validateAt_ok_iff
  rw [checkNodeRules_result]
  simp only [← forEachFrom_ok_iff uniform 0]
  cases (forEachFrom validateAt 0 rules).result <;> simp [Except.map, eq_comm]

theorem checkNodeRules_error_iff {error : AgentError} :
    (checkNodeRules node rules).result = .error error ↔
      (forEachFrom validateAt 0 rules).result = .error error := by
  rw [checkNodeRules_result]
  cases (forEachFrom validateAt 0 rules).result <;> simp [Except.map]

end Check

namespace Reconciliation

open Check

variable {node : String} {lookup : VfLookup} {cache after : FlowCache} {rules : List FlowRule}
  {exchanges : List (Exchange FlowCache)} {result : Except AgentError ReconcileReport}

private theorem pass_of_check_error {error : AgentError}
    (ends : (pass lookup cache rules).Ends exchanges after result)
    (failed : (checkNodeRules node rules).result = .error error) :
    result = .error error ∧ answeredCalls exchanges = [] := by
  have refused := checkNodeRules_error_iff.mp failed
  rcases Program.Ends.of_andThen (Program.Ends.of_within ends) with
    ⟨first, _, fails, rfl, calls⟩ | ⟨_, _, validated, _, validates, _, _⟩
  · obtain ⟨rfl, rfl, outcome⟩ := Program.Ends.of_ofTraced fails
    rw [refused] at outcome
    cases outcome
    exact ⟨rfl, calls⟩
  · obtain ⟨_, _, outcome⟩ := Program.Ends.of_ofTraced validates
    rw [refused] at outcome
    cases outcome

private theorem Outcome.asked_of_valid {calls : List Answered} {error : AgentError}
    (outcome : Outcome lookup cache rules calls after (.error error)) (valid : ∀ rule ∈ rules, Valid rule) :
    calls ≠ [] := by
  cases outcome with
  | invalid split _ refused =>
    subst split
    exact absurd (valid _ (List.mem_append_right _ List.mem_cons_self)) (not_valid_of_refused refused)
  | unlisted => exact List.cons_ne_nil _ _
  | unresolved => exact List.cons_ne_nil _ _
  | installing _ _ _ installation => cases installation <;> simp

theorem check_error_iff {error : AgentError}
    (ends : (pass lookup cache rules).Ends exchanges after result) :
    (checkNodeRules node rules).result = .error error ↔
      result = .error error ∧ answeredCalls exchanges = [] := by
  constructor
  · exact pass_of_check_error ends
  · rintro ⟨rfl, unasked⟩
    cases check : (checkNodeRules node rules).result with
    | ok checked =>
      obtain ⟨validated, valid, _⟩ := checkNodeRules_ok_iff.mp check
      exact absurd unasked ((pass_ends ends).asked_of_valid (valid_of_validates valid))
    | error source =>
      obtain ⟨same, _⟩ := pass_of_check_error ends check
      cases same
      rfl

/-- The entry for the rule at a position. Unless the rule names a device, the fingerprint is that of the
request which the rule asks for, whatever ports there are. -/
structure EntryOf (node : String) (index : Nat) (rule : FlowRule) (entry : CheckedRule) : Prop where
  node : entry.node = node
  index : entry.index = index
  validated : ∃ validated, Validates rule validated ∧
    entry.fingerprint = .ofRequest validated.toRequest ∧ entry.verdict = validated.verdict
  requested : ¬ NamesDevice rule → ∀ lookup ports, ∃ request,
    request? lookup ports rule = some request ∧ entry.fingerprint = .ofRequest request

private theorem kept_of_plain {rule : FlowRule} {validated : ValidatedRule} (valid : Validates rule validated)
    (plain : ¬ NamesDevice rule) (lookup : VfLookup) (ports : List Port) :
    ResolvesRule lookup ports validated validated :=
  .kept (Bool.eq_false_iff.mpr fun names => plain ((namesDevice_of_validates valid).mp names))

private theorem request?_of_plain {rule : FlowRule} {validated : ValidatedRule} (valid : Validates rule validated)
    (plain : ¬ NamesDevice rule) (lookup : VfLookup) (ports : List Port) :
    request? lookup ports rule = some validated.toRequest :=
  request?_of_resolved valid (kept_of_plain valid plain lookup ports)

private theorem entryOf_of_validates {rule : FlowRule} {validated : ValidatedRule}
    (valid : Validates rule validated) (node : String) (index : Nat) :
    EntryOf node index rule (entry node index validated) :=
  ⟨rfl, rfl, ⟨validated, valid, rfl, rfl⟩,
    fun plain lookup ports => ⟨_, request?_of_plain valid plain lookup ports, rfl⟩⟩

theorem entries_of_check_ok {checked : List CheckedRule}
    (passed : (checkNodeRules node rules).result = .ok checked) :
    List.Forall₂ (fun rule entry => EntryOf node entry.index rule entry) rules checked := by
  obtain ⟨validated, valid, rfl⟩ := checkNodeRules_ok_iff.mp passed
  exact forall₂_mapIdx (fun index _ _ validates => entryOf_of_validates validates node index) valid

private theorem countP_verdict_of_validates {validated : List ValidatedRule}
    (valid : List.Forall₂ Validates rules validated) :
    (validated.mapIdx (entry node)).countP (·.verdict = .acceptedUnvalidated) =
      rules.countP partlyValidated := by
  have agree : List.Forall₂ (fun rule (entry : CheckedRule) =>
      partlyValidated rule = decide (entry.verdict = .acceptedUnvalidated)) rules
      (validated.mapIdx (entry node)) := by
    refine forall₂_mapIdx ?_ valid
    intro index rule each validates
    exact partlyValidated_of_validates validates
  generalize validated.mapIdx (entry node) = checked at agree ⊢
  clear valid
  induction agree with
  | nil => rfl
  | cons first _ ih => rw [List.countP_cons, List.countP_cons, ih, first]

private theorem fingerprints_of_entries (node : String) (validated : List ValidatedRule) :
    (validated.mapIdx (entry node)).map CheckedRule.fingerprint =
      (validated.map ValidatedRule.toRequest).map Fingerprint.ofRequest :=
  List.ext_getElem (by simp) (by simp [entry])

private theorem desired_of_plain {validated : List ValidatedRule} (valid : List.Forall₂ Validates rules validated)
    (plain : ∀ rule ∈ rules, ¬ NamesDevice rule) (ports : List Port) :
    desired lookup ports rules = wanted (validated.map ValidatedRule.toRequest) := by
  have kept : List.Forall₂ (ResolvesRule lookup ports) validated validated := by
    refine List.forall₂_same.mpr fun each member => ?_
    obtain ⟨rule, given, validates⟩ := exists_of_forall₂ valid member
    exact kept_of_plain validates (plain rule given) lookup ports
  exact desired_of_requested (requests_of_resolved valid kept)

/-- A pass that succeeds goes by the fingerprints and verdicts of the check. -/
structure Confirms (rules : List FlowRule) (checked : List CheckedRule) (after : FlowCache)
    (report : ReconcileReport) : Prop where
  cached : ∀ (index : Nat) (rule : FlowRule) (entry : CheckedRule), rules[index]? = some rule →
    checked[index]? = some entry → ¬ NamesDevice rule → entry.fingerprint ∈ after.fingerprints
  exact : (∀ rule ∈ rules, ¬ NamesDevice rule) →
    after.fingerprints.toFinset = (checked.map (·.fingerprint)).toFinset
  unvalidated : report.unvalidated = checked.countP (·.verdict = .acceptedUnvalidated)

theorem Settles.confirms {ports : List Port} {validated : List ValidatedRule} {report : ReconcileReport}
    (settles : Settles lookup ports cache after rules report)
    (valid : List.Forall₂ Validates rules validated) :
    Confirms rules (validated.mapIdx (entry node)) after report := by
  refine ⟨?_, ?_, ?_⟩
  · intro index rule _ found there plain
    obtain ⟨each, validatedThere, validates⟩ := getElem?_of_forall₂ valid.flip found
    rw [List.getElem?_mapIdx, validatedThere] at there
    cases there
    have asks := request?_of_plain validates plain lookup ports
    rw [← List.mem_toFinset, settles.fingerprints, desired, mem_wanted_iff]
    exact ⟨each.toRequest, List.mem_filterMap.mpr ⟨rule, List.mem_of_getElem? found, asks⟩, rfl⟩
  · intro plain
    rw [settles.fingerprints, desired_of_plain valid plain, fingerprints_of_entries, wanted]
  · rw [settles.unvalidated, countP_verdict_of_validates valid]

/-- A check and a pass over the same rules fail together with the same error, the pass before it asks for
anything and from whatever cache. Otherwise the check has an entry for each rule, and every pass that
succeeds confirms them. -/
theorem node_check_agrees (node : String) (rules : List FlowRule) :
    (∀ error, (checkNodeRules node rules).result = .error error → FirstInvalid rules error) ∧
    (∀ lookup cache, ∃ exchanges after result, (pass lookup cache rules).Ends exchanges after result) ∧
    (∀ lookup cache exchanges after result, (pass lookup cache rules).Ends exchanges after result →
      ∀ error, (checkNodeRules node rules).result = .error error ↔
        result = .error error ∧ answeredCalls exchanges = []) ∧
    ∀ checked, (checkNodeRules node rules).result = .ok checked →
      checked.length = rules.length ∧
      (∀ (index : Nat) (rule : FlowRule), rules[index]? = some rule →
        ∃ entry, checked[index]? = some entry ∧ EntryOf node index rule entry) ∧
      ∀ lookup cache exchanges after report,
        (pass lookup cache rules).Ends exchanges after (.ok report) →
        Confirms rules checked after report := by
  refine ⟨?_, ?_, ?_, ?_⟩
  · intro error failed
    exact Check.validate_all_error (checkNodeRules_error_iff.mp failed)
  · intro lookup cache
    obtain ⟨exchanges, after, result, ends, _⟩ := exists_listed_run cache rules []
    exact ⟨exchanges, after, result, ends⟩
  · intro lookup cache exchanges after result ends error
    exact check_error_iff ends
  · intro checked passed
    obtain ⟨validated, valid, rfl⟩ := checkNodeRules_ok_iff.mp passed
    refine ⟨?_, ?_, ?_⟩
    · rw [List.length_mapIdx, valid.length_eq]
    · intro index rule found
      obtain ⟨each, there, validates⟩ := getElem?_of_forall₂ valid.flip found
      exact ⟨_, by rw [List.getElem?_mapIdx, there]; rfl, entryOf_of_validates validates node index⟩
    · intro lookup cache exchanges after report ends
      obtain ⟨⟨ports, listed⟩, settles⟩ := pass_converges ends
      exact (settles ports listed).1.confirms valid

private theorem validates_dropRule : Validates dropRule dropValidated := rfl

/-- After the first pass with one rule, the cache has the fingerprint that the check gives the rule. -/
theorem node_check_agrees_dropRule :
    ∃ exchanges after, (pass (.ofTable []) .empty [dropRule]).Ends exchanges after (.ok ⟨1, 0, 0, 0⟩) ∧
      (checkNodeRules "" [dropRule]).result = .ok [entry "" 0 dropValidated] ∧
      after.fingerprints.toFinset = {.ofRequest dropValidated.toRequest} := by
  have passed : (checkNodeRules "" [dropRule]).result = .ok [entry "" 0 dropValidated] :=
    checkNodeRules_ok_iff.mpr ⟨[dropValidated], .cons validates_dropRule .nil, rfl⟩
  have plain : ∀ rule ∈ [dropRule], ¬ NamesDevice rule := by
    rintro rule member ⟨action, inside, device⟩
    cases List.mem_singleton.mp member
    have names : ∀ action ∈ dropRule.action, action.type ≠ ActionType.vfPciAddr.name := by decide
    exact names action inside device
  have ends := pass_dropRule (.ofTable []) 7
  obtain ⟨_, _, confirms⟩ := (node_check_agrees "" [dropRule]).2.2.2 _ passed
  exact ⟨_, _, ends, passed, (confirms _ _ _ _ _ ends).exact plain⟩

end Reconciliation

end NicFlow
