import Mathlib.Data.List.ProdSigma
import NicFlow.Proofs.FanOut
import NicFlow.Proofs.NodeCheck

/-! What the check of cluster rules without pods says about all pods. A configuration that passes it can
only fail for what the annotations of pods say. -/

namespace NicFlow

open Log Traced

namespace Translation

variable {config : ClusterConfig} {rule : ClusterRule} {action : ClusterAction} {pod : Pod}
  {error : TranslateError}

theorem checkRule_ok_iff :
    checkRule rule = .ok () ↔ ∀ action ∈ rule.action, ∃ conf, checkAction action = .ok conf := by
  have each : ∀ action, (checkAction action).map (fun _ => ()) = .ok () ↔
      ∃ conf, checkAction action = .ok conf := by
    intro action
    cases checkAction action <;> simp [Except.map]
  rw [checkRule, forM_eq_ok_iff]
  simp only [each]

/-- The interface that an action routes to is attached to the pod, with a device of this address. -/
inductive Routes (action : ClusterAction) (pod : Pod) : String → Prop where
  | attached {conf attachments address} (checked : checkAction action = .ok conf)
      (listed : pod.attachments = .ok attachments)
      (found : pciAddressOf pod.key attachments conf.podInterface = .ok address) : Routes action pod address

theorem translateAction_ok_iff {translated : RuleAction} :
    (translateAction action pod).result = .ok translated ↔
      ∃ address, Routes action pod address ∧ translated = deviceAction address := by
  simp only [translateAction, bind_ok_iff, result_of, result_report, result_pure]
  constructor
  · rintro ⟨conf, checked, attachments, listed, address, found, _, _, same⟩
    cases same
    exact ⟨address, .attached checked listed found, rfl⟩
  · rintro ⟨address, ⟨checked, listed, found⟩, rfl⟩
    exact ⟨_, checked, _, listed, address, found, (), trivial, rfl⟩

/-- What a cluster rule becomes whose actions route to devices of these addresses. -/
def nodeRule (rule : ClusterRule) (addresses : List String) : FlowRule where
  portId := rule.portId
  pattern := rule.pattern
  action :=
    addresses.map (fun address =>
      ⟨"RTE_FLOW_ACTION_TYPE_VFPCIADDR", some (.object [("addr", .string address)])⟩) ++
      [⟨"RTE_FLOW_ACTION_TYPE_END", none⟩]
  attr := rule.attr

private theorem nodeRule_eq (rule : ClusterRule) (addresses : List String) : nodeRule rule addresses =
    ⟨rule.portId, rule.pattern, addresses.map deviceAction ++ [⟨ActionType.terminator.name, none⟩], rule.attr⟩ := rfl

theorem nodeRule_of_translated {translated : FlowRule}
    (ok : (translateRule rule pod).result = .ok translated) :
    ∃ addresses, List.Forall₂ (Routes · pod) rule.action addresses ∧
      translated = nodeRule rule addresses := by
  have routed : ∀ {actions : List ClusterAction} {values : List RuleAction},
      List.Forall₂ (fun action value => (translateAction action pod).result = .ok value) actions values →
      ∃ addresses, List.Forall₂ (Routes · pod) actions addresses ∧ values = addresses.map deviceAction := by
    intro actions values all
    induction all with
    | nil => exact ⟨[], .nil, rfl⟩
    | cons first _ ih =>
      obtain ⟨address, routes, rfl⟩ := translateAction_ok_iff.mp first
      obtain ⟨addresses, others, rfl⟩ := ih
      exact ⟨address :: addresses, .cons routes others, rfl⟩
  obtain ⟨values, all, same⟩ := bind_ok_iff.mp ok
  obtain ⟨addresses, routes, rfl⟩ := routed (forEach_ok_iff.mp all)
  cases same
  exact ⟨addresses, routes, rfl⟩

/-- The annotation of a pod cannot be read, or has no device for an interface. -/
inductive PodFault (key : String) : TranslateError → Prop where
  | unreadableStatus (error : ReadError) : PodFault key (.unreadableStatus key error)
  | interfaceNotFound (interface : String) : PodFault key (.interfaceNotFound key interface)
  | incorrectDeviceType (interface found : String) : PodFault key (.incorrectDeviceType key interface found)
  | missingPciAddress (interface : String) : PodFault key (.missingPciAddress key interface)

private theorem podFault_of_attachments (annotated : (pod.annotations.lookup Pod.statusKey).isSome)
    (failed : pod.attachments = .error error) : PodFault pod.key error := by
  obtain ⟨text, found⟩ := Option.isSome_iff_exists.mp annotated
  rw [Pod.attachments, found] at failed
  obtain ⟨source, _, rfl⟩ := mapError_eq_error_iff.mp failed
  exact .unreadableStatus source

theorem podFault_of_pciAddressOf {key interface : String} {attachments : List Attachment}
    (failed : pciAddressOf key attachments interface = .error error) : PodFault key error := by
  simp only [pciAddressOf] at failed
  split at failed
  · cases failed
    exact .interfaceNotFound interface
  next attachment _ =>
    split at failed
    · cases failed
      exact .incorrectDeviceType interface _
    · split at failed
      · split at failed
        · cases failed
          exact .missingPciAddress interface
        · cases failed
      · cases failed
        exact .missingPciAddress interface

private theorem podFault_of_translateAction (annotated : (pod.annotations.lookup Pod.statusKey).isSome)
    (checked : ∃ conf, checkAction action = .ok conf)
    (failed : (translateAction action pod).result = .error error) : PodFault pod.key error := by
  obtain ⟨conf, checked⟩ := checked
  simp only [translateAction, bind_error_iff, result_of, result_report, result_pure, checked, reduceCtorEq,
    false_or, Except.ok.injEq, exists_eq_left', and_false, exists_const, or_false] at failed
  rcases failed with unlisted | ⟨attachments, _, missing⟩
  · exact podFault_of_attachments annotated unlisted
  · exact podFault_of_pciAddressOf missing

private theorem podFault_of_translateForPod (annotated : (pod.annotations.lookup Pod.statusKey).isSome)
    (checked : ∀ rule ∈ config.rules, checkRule rule = .ok ())
    (failed : (translateForPod config pod).result = .error error) : PodFault pod.key error := by
  obtain ⟨before, rule, after, split, _, failed⟩ := forEach_error_iff.mp failed
  have known : checkRule rule = .ok () := checked rule (by simp [split])
  rcases bind_error_iff.mp failed with failed | ⟨_, _, impossible⟩
  · obtain ⟨earlier, action, later, split, _, failed⟩ := forEach_error_iff.mp failed
    exact podFault_of_translateAction annotated (checkRule_ok_iff.mp known action (by simp [split])) failed
  · cases impossible

private theorem podFault_of_fanOut {pods : List Pod} (checked : ∀ rule ∈ config.rules, checkRule rule = .ok ())
    (failed : (fanOut config pods).result = .error error) :
    ∃ pod ∈ pods, eligible config pod = true ∧ PodFault pod.key error := by
  obtain ⟨before, pod, after, split, _, failed⟩ := fanOut_error_iff.mp failed
  obtain ⟨member, taken⟩ := mem_ordered_iff.mp (by simp [split] : pod ∈ ordered config pods)
  obtain ⟨_, _, annotated⟩ := eligible_iff.mp taken
  exact ⟨pod, member, taken, podFault_of_translateForPod annotated checked failed⟩

end Translation

namespace Validation

open Translation Reconciliation

variable {rule : ClusterRule} {addresses : List String} {fault : FlowError}

private theorem decode_deviceConf (address : String) :
    ActionConf.decode .vfPciAddr (.ofFields [("addr", .string address)]) = .ok (addressConf address) := by
  let reader : RecordReader Json (ActionShape.Value .vfPciAddr) :=
    (Wire.Fields.ofList [("addr", .string)]).reader "RteFlowActionVfPciAddr" false
  have known : reader.position? "addr" = some 0 := by decide
  have assigned : reader.assign 0 (Json.string address) reader.start = .ok (address, ()) := rfl
  have read : reader.read (.object [("addr", .string address)]) = .ok (address, ()) :=
    RecordReader.read_single known assigned (by decide)
  show (reader.read (.object [("addr", .string address)])).mapError PayloadError.json >>= _ = _
  rw [read]
  rfl

def deviceFault (reason : PciError) (position : Nat) : FlowError :=
  .actionField position .vfPciAddr (.invalid "addr" reason.message)

private theorem actionFaults_deviceAction (address : String) :
    actionFaults (deviceAction address) = (failures (PciAddress.parse address)).map deviceFault := by
  have known : ActionType.ofName? ActionType.vfPciAddr.name = some .vfPciAddr := by decide
  have shaped : ActionType.vfPciAddr.shape? = some .vfPciAddr := by decide
  simp only [actionFaults, deviceAction, known, shaped, confFaults, decode_deviceConf, check_addressConf]
  cases PciAddress.parse address <;> rfl

private theorem mem_placed_iff {γ : Type} {faults : γ → List (Nat → FlowError)} {elements : List γ} :
    fault ∈ placed faults elements ↔ ∃ position element, elements[position]? = some element ∧
      ∃ cause ∈ faults element, fault = cause position := by
  simp only [placed, List.mem_flatMap, List.mem_map, Prod.exists, List.mk_mem_zipIdx_iff_getElem?,
    eq_comm (a := fault)]
  exact exists_comm

/-- What the check without pods asks of a rule. -/
structure Checked (rule : ClusterRule) : Prop where
  pattern : ∃ items, (validatePattern rule.pattern).result = .ok items
  attributes : validateAttributes (rule.attr.getD .default) = .ok ()
  actions : checkRule rule = .ok ()

private theorem violations_nodeRule (checked : Checked rule) (addresses : List String) :
    violations .node (nodeRule rule addresses) = placed actionFaults (nodeRule rule addresses).action := by
  have pattern : placed itemFaults rule.pattern ++ patternEndFaults rule.pattern = [] :=
    (failsFirst_validatePattern rule.pattern).ok_iff.mp checked.pattern
  have attributes : attributeFaults (rule.attr.getD .default) = [] :=
    (failsFirst_validateAttributes _).ok_iff.mp ⟨(), checked.attributes⟩
  have present : absenceFaults .node (nodeRule rule addresses).action = [] := by
    simp [absenceFaults, nodeRule_eq]
  have ends : actionsEndFaults (nodeRule rule addresses).action = [] := by
    have known : ActionType.ofName? ActionType.terminator.name = some .terminator := by decide
    simp [actionsEndFaults, nodeRule_eq, known, endFaults]
  rw [violations, present, ends, List.nil_append, List.append_nil]
  show (placed itemFaults rule.pattern ++ patternEndFaults rule.pattern) ++
    (_ ++ attributeFaults (rule.attr.getD .default)) = _
  rw [pattern, attributes, List.nil_append, List.append_nil]

private theorem fault_of_nodeRule (checked : Checked rule)
    (refused : (validateRule .node (nodeRule rule addresses)).result = .error fault) :
    ∃ position, ∃ address ∈ addresses, ∃ reason, PciAddress.parse address = .error reason ∧
      fault = deviceFault reason position := by
  have first := (failsFirst_validateRule .node _ fault).mp refused
  rw [violations_nodeRule checked] at first
  obtain ⟨position, action, found, cause, member, rfl⟩ := mem_placed_iff.mp (List.mem_of_head? first)
  have inside : action ∈ addresses.map deviceAction ++ [⟨ActionType.terminator.name, none⟩] :=
    List.mem_of_getElem? found
  rcases List.mem_append.mp inside with device | last
  · obtain ⟨address, given, rfl⟩ := List.mem_map.mp device
    rw [actionFaults_deviceAction] at member
    obtain ⟨reason, failed, rfl⟩ := List.mem_map.mp member
    exact ⟨position, address, given, reason, mem_failures_iff.mp failed, rfl⟩
  · cases List.mem_singleton.mp last
    have none : actionFaults ⟨ActionType.terminator.name, none⟩ = [] := by decide
    rw [none] at member
    cases member

end Validation

namespace Check

open Translation Validation

variable {config : ClusterConfig} {pods : List Pod} {nodes : List NodeConfig} {node : NodeConfig}

section Pairs

def podsOn (config : ClusterConfig) (pods : List Pod) (node : NodeConfig) : List Pod :=
  (ordered config pods).filter (·.nodeName = some node.nodeName)

private theorem mem_podsOn_iff {pod : Pod} : pod ∈ podsOn config pods node ↔
    (pod ∈ pods ∧ eligible config pod = true) ∧ pod.nodeName = some node.nodeName := by
  simp [podsOn, mem_ordered_iff]

/-- The rules of a node come from its pods, each with each rule of the configuration. -/
theorem rules_of_node (ok : (fanOut config pods).result = .ok nodes) (member : node ∈ nodes) :
    List.Forall₂ (fun pair translated => (translateRule pair.2 pair.1).result = .ok translated)
      ((podsOn config pods node).product config.rules) node.rules := by
  obtain ⟨parts, translated, same⟩ := (distributes_of_ok ok).rules node member
  have parted : List.Forall₂ (List.Forall₂ fun pair translated =>
      (translateRule pair.2 pair.1).result = .ok translated)
      ((podsOn config pods node).map fun pod => config.rules.map (Prod.mk pod)) parts := by
    refine List.forall₂_map_left_iff.mpr (translated.imp fun pod part translated => ?_)
    exact List.forall₂_map_left_iff.mpr (forEach_ok_iff.mp translated)
  rw [same]
  exact List.rel_flatten parted

private theorem perm_grouped {κ α : Type} [DecidableEq κ] (key : α → κ) {keys : List κ} (distinct : keys.Nodup)
    {elements : List α} (covered : ∀ element ∈ elements, key element ∈ keys) :
    (keys.flatMap fun name => elements.filter (key · = name)).Perm elements := by
  induction keys generalizing elements with
  | nil =>
    rw [List.eq_nil_iff_forall_not_mem.mpr fun element member => List.not_mem_nil (covered element member)]
    exact .nil
  | cons name rest ih =>
    obtain ⟨apart, distinct⟩ := List.nodup_cons.mp distinct
    let others := elements.filter fun element => !decide (key element = name)
    have coveredOthers : ∀ element ∈ others, key element ∈ rest := by
      intro element member
      obtain ⟨present, different⟩ := List.mem_filter.mp member
      exact (List.mem_cons.mp (covered element present)).resolve_left (by simpa using different)
    have same : (rest.flatMap fun other => elements.filter (key · = other)) =
        rest.flatMap fun other => others.filter (key · = other) := by
      refine List.flatMap_congr fun other member => ?_
      rw [List.filter_filter]
      refine List.filter_congr fun element _ => ?_
      have different : other ≠ name := fun same => apart (same ▸ member)
      by_cases here : key element = other <;> simp [here, different]
    rw [List.flatMap_cons, same]
    exact ((ih distinct coveredOthers).append_left _).trans (List.filter_append_perm (key · = name) elements)

private theorem perm_podsOn (ok : (fanOut config pods).result = .ok nodes) :
    (nodes.flatMap (podsOn config pods)).Perm (pods.filter (eligible config)) := by
  have distributes := distributes_of_ok ok
  have distinct : (nodes.map fun node => some node.nodeName).Nodup := by
    refine List.pairwise_map.mpr (distributes.increasing.imp fun {left right} below same => ?_)
    rw [Option.some.inj same] at below
    exact absurd below (String.lt_irrefl _)
  have covered : ∀ pod ∈ ordered config pods,
      pod.nodeName ∈ nodes.map fun node => some node.nodeName := by
    intro pod taken
    obtain ⟨name, placed⟩ := Option.isSome_iff_exists.mp (scheduled_of_mem_ordered taken)
    obtain ⟨node, member, rfl⟩ := (distributes.names name).mpr ⟨pod, taken, placed⟩
    exact List.mem_map.mpr ⟨node, member, placed.symm⟩
  have grouped := perm_grouped Pod.nodeName distinct covered
  rw [List.flatMap_map] at grouped
  exact grouped.trans (ordered_perm config pods)

private theorem perm_pairs (ok : (fanOut config pods).result = .ok nodes) :
    (nodes.flatMap fun node => (podsOn config pods node).product config.rules).Perm
      ((pods.filter (eligible config)).product config.rules) := by
  have pairs := (perm_podsOn ok).flatMap_right fun pod => config.rules.map (Prod.mk pod)
  rw [List.flatMap_assoc] at pairs
  exact pairs

end Pairs

section Stages

private theorem checkClusterRule_ok_iff {index : Nat} {rule : ClusterRule} :
    (checkClusterRule index rule).result = .ok () ↔ Checked rule := by
  simp only [checkClusterRule, bind_ok_iff, mapError_ok_iff, mapError_eq_ok_iff, result_of]
  constructor
  · rintro ⟨items, pattern, _, attributes, actions⟩
    exact ⟨⟨items, pattern⟩, attributes, actions⟩
  · rintro ⟨⟨items, pattern⟩, attributes, actions⟩
    exact ⟨items, pattern, (), attributes, actions⟩

private theorem checked_of_ok {units : List Unit}
    (passed : (forEachFrom checkClusterRule 0 config.rules).result = .ok units) :
    ∀ rule ∈ config.rules, Checked rule := by
  have uniform : ∀ index rule (passed : Unit),
      (checkClusterRule index rule).result = .ok passed ↔ Checked rule :=
    fun _ _ _ => checkClusterRule_ok_iff
  intro rule member
  obtain ⟨_, _, checked⟩ := exists_of_forall₂ ((forEachFrom_ok_iff uniform 0 _ _).mp passed).flip member
  exact checked

private theorem fanOut_nil (config : ClusterConfig) : (fanOut config []).result = .ok [] :=
  fanOut_ok_iff.mpr ⟨[], by simp [ordered, selectedPods], rfl⟩

private theorem checkClusterRules_nil (config : ClusterConfig) :
    (checkClusterRules config []).result =
      (forEachFrom checkClusterRule 0 config.rules).result.map fun _ => [] := by
  rw [checkClusterRules, result_bind]
  cases (forEachFrom checkClusterRule 0 config.rules).result with
  | error error => rfl
  | ok units =>
    simp only [Except.bind, result_bind, result_mapError, fanOut_nil]
    rfl

end Stages

section Nodes

/-- A pod that takes part is on the node, and has a device of the address where a rule routes to. -/
inductive Announced (config : ClusterConfig) (pods : List Pod) (name address : String) : Prop where
  | attached {pod rule action} (member : pod ∈ pods) (taken : eligible config pod = true)
      (placed : pod.nodeName = some name) (given : rule ∈ config.rules) (acts : action ∈ rule.action)
      (routes : Routes action pod address) : Announced config pods name address

theorem nodeRule_of_mem (ok : (fanOut config pods).result = .ok nodes) (member : node ∈ nodes)
    {translated : FlowRule} (inside : translated ∈ node.rules) :
    ∃ rule ∈ config.rules, ∃ addresses, translated = nodeRule rule addresses ∧
      ∀ address ∈ addresses, Announced config pods node.nodeName address := by
  obtain ⟨⟨pod, rule⟩, paired, becomes⟩ := exists_of_forall₂ (rules_of_node ok member) inside
  obtain ⟨here, given⟩ := List.pair_mem_product.mp paired
  obtain ⟨⟨present, taken⟩, placed⟩ := mem_podsOn_iff.mp here
  obtain ⟨addresses, routes, same⟩ := nodeRule_of_translated becomes
  refine ⟨rule, given, addresses, same, fun address member => ?_⟩
  obtain ⟨action, acts, routed⟩ := exists_of_forall₂ routes member
  exact .attached present taken placed given acts routed

private theorem fault_of_node (checked : ∀ rule ∈ config.rules, Checked rule)
    (ok : (fanOut config pods).result = .ok nodes) (member : node ∈ nodes) {error : AgentError}
    (failed : (checkNodeRules node.nodeName node.rules).result = .error error) :
    ∃ index position address reason, error = .flow index (deviceFault reason position) ∧
      Announced config pods node.nodeName address ∧ PciAddress.parse address = .error reason := by
  obtain ⟨before, translated, rest, source, split, _, refused, rfl⟩ :=
    validate_all_error (checkNodeRules_error_iff.mp failed)
  have inside : translated ∈ node.rules := by simp [split]
  obtain ⟨rule, given, addresses, rfl, announced⟩ := nodeRule_of_mem ok member inside
  obtain ⟨position, address, present, reason, unreadable, rfl⟩ := fault_of_nodeRule (checked rule given) refused
  exact ⟨before.length, position, address, reason, rfl, announced address present, unreadable⟩

/-- The entry of a rule for a pod is that of the rule which it becomes there. -/
def EntryFor (pair : Pod × ClusterRule) (entry : CheckedRule) : Prop :=
  pair.1.nodeName = some entry.node ∧ ∃ translated, (translateRule pair.2 pair.1).result = .ok translated ∧
    Reconciliation.EntryOf entry.node entry.index translated entry

private theorem entries_of_node (ok : (fanOut config pods).result = .ok nodes) (member : node ∈ nodes)
    {entries : List CheckedRule} (passed : (checkNodeRules node.nodeName node.rules).result = .ok entries) :
    List.Forall₂ EntryFor ((podsOn config pods node).product config.rules) entries := by
  have through := forall₂_through (rules_of_node ok member) (Reconciliation.entries_of_check_ok passed)
  have placed : ∀ pair ∈ (podsOn config pods node).product config.rules,
      pair.1.nodeName = some node.nodeName := by
    intro pair paired
    exact (mem_podsOn_iff.mp (List.mem_product.mp paired).1).2
  refine ((List.forall₂_and_left _ _).mpr ⟨placed, through⟩).imp ?_
  rintro pair entry ⟨placed, translated, becomes, entryOf⟩
  have here := entryOf.node
  rw [← here] at placed entryOf
  exact ⟨placed, translated, becomes, entryOf⟩

private theorem entries_of_nodes (ok : (fanOut config pods).result = .ok nodes) {parts : List (List CheckedRule)}
    (passed : (forEach (fun node => checkNodeRules node.nodeName node.rules) nodes).result = .ok parts) :
    List.Forall₂ EntryFor (nodes.flatMap fun node => (podsOn config pods node).product config.rules)
      parts.flatten := by
  have parted : List.Forall₂ (List.Forall₂ EntryFor)
      (nodes.map fun node => (podsOn config pods node).product config.rules) parts := by
    refine List.forall₂_map_left_iff.mpr ?_
    refine ((List.forall₂_and_left _ _).mpr ⟨fun _ => id, forEach_ok_iff.mp passed⟩).imp ?_
    exact fun node part passed => entries_of_node ok passed.1 passed.2
  exact List.rel_flatten parted

end Nodes

section Soundness

private theorem checkClusterRules_ok {units : List Unit}
    (passed : (forEachFrom checkClusterRule 0 config.rules).result = .ok units)
    (ok : (fanOut config pods).result = .ok nodes)
    (readable : ∀ name address, Announced config pods name address →
      ∃ vf, PciAddress.parse address = .ok vf) :
    ∃ pairs checked, pairs.Perm ((pods.filter (eligible config)).product config.rules) ∧
      (checkClusterRules config pods).result = .ok checked ∧ List.Forall₂ EntryFor pairs checked := by
  have each : ∀ node ∈ nodes, ∃ entries, (checkNodeRules node.nodeName node.rules).result = .ok entries := by
    intro node member
    cases result : (checkNodeRules node.nodeName node.rules).result with
    | ok entries => exact ⟨entries, rfl⟩
    | error error =>
      obtain ⟨_, _, address, reason, _, announced, unreadable⟩ :=
        fault_of_node (checked_of_ok passed) ok member result
      obtain ⟨vf, parsed⟩ := readable node.nodeName address announced
      rw [parsed] at unreadable
      cases unreadable
  obtain ⟨parts, all⟩ := exists_forEach_ok_iff.mpr each
  refine ⟨_, parts.flatten, perm_pairs ok, ?_, entries_of_nodes ok all⟩
  exact bind_ok_iff.mpr ⟨units, passed, bind_ok_iff.mpr ⟨nodes, mapError_ok_iff.mpr ok,
    bind_ok_iff.mpr ⟨parts, all, rfl⟩⟩⟩

/-- A configuration that is refused without pods is refused for all pods, with the same error. One that
is not refused can only fail for what the annotations of pods say; otherwise every rule has one entry for
every pod that takes part. -/
theorem cluster_check_sound (config : ClusterConfig) :
    (∀ error, (checkClusterRules config []).result = .error error →
      ∀ pods, (checkClusterRules config pods).result = .error error) ∧
    ∀ passed, (checkClusterRules config []).result = .ok passed → ∀ pods,
      (∀ error, (fanOut config pods).result = .error error →
        ∃ pod ∈ pods, eligible config pod = true ∧ PodFault pod.key error) ∧
      ∀ nodes, (fanOut config pods).result = .ok nodes →
        (∀ node ∈ nodes, ∀ error, (checkNodeRules node.nodeName node.rules).result = .error error →
          ∃ index position address reason,
            error = .flow index (.actionField position .vfPciAddr (.invalid "addr" reason.message)) ∧
            Announced config pods node.nodeName address ∧ PciAddress.parse address = .error reason) ∧
        ((∀ name address, Announced config pods name address → ∃ vf, PciAddress.parse address = .ok vf) →
          ∃ pairs checked, pairs.Perm ((pods.filter (eligible config)).product config.rules) ∧
            (checkClusterRules config pods).result = .ok checked ∧ List.Forall₂ EntryFor pairs checked) := by
  rw [checkClusterRules_nil]
  cases stage : (forEachFrom checkClusterRule 0 config.rules).result with
  | error source =>
    constructor
    · intro error refused pods
      cases refused
      exact bind_error_iff.mpr (Or.inl stage)
    · intro passed impossible
      cases impossible
  | ok units =>
    have checked := checked_of_ok stage
    constructor
    · intro error impossible
      cases impossible
    · intro passed _ pods
      refine ⟨?_, fun nodes ok => ⟨?_, checkClusterRules_ok stage ok⟩⟩
      · intro error failed
        exact podFault_of_fanOut (fun rule given => (checked rule given).actions) failed
      · intro node member error failed
        exact fault_of_node checked ok member failed

/-- A rule that routes to an interface of all pods. -/
def routeConfig : ClusterConfig := ⟨⟨[]⟩, [⟨0, [], [.toPodInterface "net1"], none⟩]⟩

def routeAttachment : Attachment :=
  ⟨"", "net1", [], "", false, some ⟨"pci", "", some ⟨"0000:18:02.5", ""⟩⟩⟩

/-- A pod whose annotation lists the interface with its device. -/
def routePod : Pod where
  name := "upf"
  namespaceName := "default"
  nodeName := some "worker"
  labels := []
  annotations := [(Pod.statusKey, "[\x7b\"interface\":\"net1\",\"device-info\":" ++
    "\x7b\"type\":\"pci\",\"pci\":\x7b\"pci-address\":\"0000:18:02.5\"\x7d\x7d\x7d]")]

theorem attachments_routePod : routePod.attachments = .ok [routeAttachment] := by
  have same : (match routePod.attachments with
      | .ok attachments => decide (attachments = [routeAttachment])
      | .error _ => false) = true := by decide +kernel
  split at same
  next attachments listed => rw [listed, of_decide_eq_true same]
  · cases same

private theorem routes_routePod_iff {address : String} :
    Routes (.toPodInterface "net1") routePod address ↔ address = "0000:18:02.5" := by
  have known : checkAction (.toPodInterface "net1") = .ok ⟨"net1"⟩ := rfl
  have found : pciAddressOf routePod.key [routeAttachment] "net1" = .ok "0000:18:02.5" := rfl
  constructor
  · rintro ⟨checked, listed, resolved⟩
    cases known.symm.trans checked
    cases attachments_routePod.symm.trans listed
    exact (Except.ok.inj (found.symm.trans resolved)).symm
  · rintro rfl
    exact .attached known attachments_routePod found

theorem fanOut_routePod : ∃ nodes, (fanOut routeConfig [routePod]).result = .ok nodes := by
  refine exists_fanOut_ok_iff.mpr fun pod member _ => ?_
  cases List.mem_singleton.mp member
  refine exists_forEach_ok_iff.mpr fun rule given => ?_
  cases List.mem_singleton.mp given
  have translated := translateAction_ok_iff.mpr ⟨_, routes_routePod_iff.mpr rfl, rfl⟩
  exact ⟨nodeRule _ ["0000:18:02.5"], bind_ok_iff.mpr ⟨_, forEach_ok_iff.mpr (.cons translated .nil), rfl⟩⟩

/-- The rule has one entry for the pod. -/
theorem cluster_check_sound_routePod :
    (checkClusterRules routeConfig []).result = .ok [] ∧
      ∃ checked, (checkClusterRules routeConfig [routePod]).result = .ok checked ∧ checked.length = 1 := by
  have passed : (checkClusterRules routeConfig []).result = .ok [] := by
    rw [checkClusterRules_nil]
    rfl
  have readable : ∀ name address, Announced routeConfig [routePod] name address →
      ∃ vf, PciAddress.parse address = .ok vf := by
    rintro name address ⟨member, _, _, given, acts, routes⟩
    cases List.mem_singleton.mp given
    rw [List.mem_singleton.mp member, List.mem_singleton.mp acts, routes_routePod_iff] at routes
    rw [routes]
    exact ⟨⟨0, 0x18, 2, 5⟩, by decide +kernel⟩
  obtain ⟨nodes, ok⟩ := fanOut_routePod
  obtain ⟨pairs, checked, each, result, entries⟩ :=
    (((cluster_check_sound routeConfig).2 [] passed [routePod]).2 nodes ok).2 readable
  refine ⟨passed, checked, result, ?_⟩
  calc checked.length
    _ = pairs.length := entries.length_eq.symm
    _ = (([routePod].filter (eligible routeConfig)).product routeConfig.rules).length := each.length_eq
    _ = 1 := by decide

end Soundness

end Check

end NicFlow
