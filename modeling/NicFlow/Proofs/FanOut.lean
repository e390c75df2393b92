import Mathlib.Data.List.Induction
import Mathlib.Data.List.Nodup
import NicFlow.Cluster.Translation
import NicFlow.Proofs.SortedEntries
import NicFlow.Proofs.TracedResults

/-! Which pods take part in a translation, and how their rules come to the nodes. The order in which the
pods are listed does not matter, because their keys decide in which order they are taken. -/

namespace NicFlow.Translation

open Log Traced

/-- The pod is selected, is on a node and lists its attachments. -/
def eligible (config : ClusterConfig) (pod : Pod) : Bool :=
  config.podSelector.matches pod.labels && pod.nodeName.isSome &&
    (pod.annotations.lookup Pod.statusKey).isSome

variable {config : ClusterConfig} {pods : List Pod} {pod : Pod}

section Pods

theorem eligible_iff : eligible config pod = true ↔ config.podSelector.matches pod.labels = true ∧
    pod.nodeName.isSome ∧ (pod.annotations.lookup Pod.statusKey).isSome := by
  simp only [eligible, Bool.and_eq_true, and_assoc]

private theorem attachments_of_absent (absent : pod.annotations.lookup Pod.statusKey = none) :
    pod.attachments = .error (.missingStatus pod.key) := by
  rw [Pod.attachments, absent]

private theorem attachments_of_present (present : (pod.annotations.lookup Pod.statusKey).isSome) :
    ∀ key, pod.attachments ≠ .error (.missingStatus key) := by
  intro key missing
  obtain ⟨text, found⟩ := Option.isSome_iff_exists.mp present
  rw [Pod.attachments, found] at missing
  obtain ⟨source, _, impossible⟩ := mapError_eq_error_iff.mp missing
  cases impossible

/-- The node of a pod with its rules. -/
def assign (config : ClusterConfig) (pod : Pod) : Traced TranslateError (String × List FlowRule) := do
  let rules ← translateForPod config pod
  return (pod.nodeName.getD "", rules)

private theorem translatePod_of_eligible (taken : eligible config pod = true) :
    (translatePod config pod).result = (assign config pod).result.map some := by
  obtain ⟨_, scheduled, annotated⟩ := eligible_iff.mp taken
  obtain ⟨nodeName, placed⟩ := Option.isSome_iff_exists.mp scheduled
  have present := attachments_of_present annotated
  rw [translatePod, placed]
  simp only [assign, placed, result_bind, result_pure, Option.getD_some]
  cases (translateForPod config pod).result <;> rfl

private theorem translatePod_of_not_eligible (selected : config.podSelector.matches pod.labels = true)
    (skipped : eligible config pod = false) : (translatePod config pod).result = .ok none := by
  cases placed : pod.nodeName with
  | none =>
    simp only [translatePod, placed]
    rfl
  | some nodeName =>
    have absent : pod.annotations.lookup Pod.statusKey = none := by
      simpa [eligible, selected, placed] using skipped
    simp only [translatePod, placed, attachments_of_absent absent]
    rfl

/-- The pods that take part, in the order of their keys. -/
def ordered (config : ClusterConfig) (pods : List Pod) : List Pod :=
  (selectedPods config pods).filter (eligible config)

theorem ordered_perm (config : ClusterConfig) (pods : List Pod) :
    (ordered config pods).Perm (pods.filter (eligible config)) := by
  have sorted := (List.mergeSort_perm (pods.filter fun pod => config.podSelector.matches pod.labels)
    fun left right => left.key ≤ right.key).filter (eligible config)
  have filtered : (pods.filter fun pod => config.podSelector.matches pod.labels).filter (eligible config) =
      pods.filter (eligible config) := by
    rw [List.filter_filter]
    congr 1
    funext pod
    cases selected : config.podSelector.matches pod.labels <;> simp [eligible, selected]
  exact filtered ▸ sorted

theorem ordered_sorted (config : ClusterConfig) (pods : List Pod) :
    (ordered config pods).Pairwise fun left right => left.key ≤ right.key := by
  have transitive : ∀ first second third : Pod, decide (first.key ≤ second.key) = true →
      decide (second.key ≤ third.key) = true → decide (first.key ≤ third.key) = true := by
    intro first second third below above
    exact decide_eq_true (String.le_trans (of_decide_eq_true below) (of_decide_eq_true above))
  have total : ∀ left right : Pod, (decide (left.key ≤ right.key) || decide (right.key ≤ left.key)) = true := by
    intro left right
    simpa using String.le_total left.key right.key
  have sorted := List.pairwise_mergeSort transitive total
    (pods.filter fun pod => config.podSelector.matches pod.labels)
  exact (sorted.imp of_decide_eq_true).filter _

private theorem ordered_eq_of_perm {others : List Pod}
    (distinct : ((pods.filter (eligible config)).map Pod.key).Nodup)
    (same : (others.filter (eligible config)).Perm (pods.filter (eligible config))) :
    ordered config others = ordered config pods := by
  have perm := ((ordered_perm config others).trans same).trans (ordered_perm config pods).symm
  refine perm.eq_of_pairwise ?_ (ordered_sorted config others) (ordered_sorted config pods)
  intro left right leftMember rightMember below above
  have leftTaken := (same.mem_iff).mp ((ordered_perm config others).mem_iff.mp leftMember)
  have rightTaken := (ordered_perm config pods).mem_iff.mp rightMember
  exact List.inj_on_of_nodup_map distinct leftTaken rightTaken (String.le_antisymm below above)

private theorem ordered_strictly (distinct : ((pods.filter (eligible config)).map Pod.key).Nodup) :
    (ordered config pods).Pairwise fun left right => left.key < right.key := by
  have different := List.pairwise_map.mp ((((ordered_perm config pods).map Pod.key).nodup_iff).mpr distinct)
  refine ((ordered_sorted config pods).and different).imp ?_
  rintro left right ⟨below, apart⟩
  by_contra above
  exact apart (String.le_antisymm below (String.not_lt.mp above))

end Pods

section Nodes

variable {entries : List (String × List FlowRule)}

/-- The rules of each node, as they are collected from the pods. -/
def collect (entries : List (String × List FlowRule)) : List (String × List FlowRule) :=
  entries.foldl addRules []

private theorem collect_concat (entry : String × List FlowRule) :
    collect (entries ++ [entry]) = addRules (collect entries) entry := by
  rw [collect, List.foldl_append]
  rfl

private theorem ordered_collect (entries : List (String × List FlowRule)) : Ordered (collect entries) := by
  induction entries using List.reverseRecOn with
  | nil => exact .nil
  | append_singleton entries entry ih =>
    rw [collect_concat]
    exact ih.insertSorted _ _

private theorem lookup_collect (entries : List (String × List FlowRule)) (name : String) :
    (collect entries).lookup name =
      if name ∈ entries.map Prod.fst then some ((entries.filter (·.1 = name)).flatMap Prod.snd)
      else none := by
  induction entries using List.reverseRecOn with
  | nil => rfl
  | append_singleton entries entry ih =>
    rw [collect_concat, addRules, lookup_insertSorted, List.map_append, List.filter_append,
      List.flatMap_append]
    by_cases same : name = entry.1
    · subst same
      have earlier : ((collect entries).lookup entry.1).getD [] =
          (entries.filter (·.1 = entry.1)).flatMap Prod.snd := by
        rw [ih]
        split
        · rfl
        next absent =>
          have none : entries.filter (·.1 = entry.1) = [] := by
            rw [List.filter_eq_nil_iff]
            intro other member same
            exact absent (List.mem_map.mpr ⟨other, member, of_decide_eq_true same⟩)
          rw [none]
          rfl
      simp [earlier]
    · have elsewhere : name ∈ entries.map Prod.fst ++ [entry].map Prod.fst ↔ name ∈ entries.map Prod.fst := by
        simp [same]
      simp only [if_neg same, ih, elsewhere, Ne.symm same, decide_false, Bool.false_eq_true,
        not_false_eq_true, List.filter_cons_of_neg, List.filter_nil, List.flatMap_nil, List.append_nil]

private theorem mem_collect_iff {name : String} {rules : List FlowRule} :
    (name, rules) ∈ collect entries ↔
      name ∈ entries.map Prod.fst ∧ rules = (entries.filter (·.1 = name)).flatMap Prod.snd := by
  rw [mem_iff_lookup_eq_some (ordered_collect entries).keys_nodup, lookup_collect]
  split
  next present => simp [present, eq_comm]
  next absent => simp [absent]

end Nodes

section FanOut

theorem assign_ok_iff {entry : String × List FlowRule} :
    (assign config pod).result = .ok entry ↔
      entry.1 = pod.nodeName.getD "" ∧ (translateForPod config pod).result = .ok entry.2 := by
  rw [assign, bind_ok_iff]
  constructor
  · rintro ⟨rules, translated, same⟩
    cases same
    exact ⟨rfl, translated⟩
  · obtain ⟨name, rules⟩ := entry
    rintro ⟨rfl, translated⟩
    exact ⟨rules, translated, rfl⟩

private theorem assign_error_iff {error : TranslateError} :
    (assign config pod).result = .error error ↔ (translateForPod config pod).result = .error error := by
  simp only [assign, bind_error_iff, result_pure, reduceCtorEq, and_false, exists_const, or_false]

private theorem assigned_iff : (∃ entry, (assign config pod).result = .ok entry) ↔
    ∃ rules, (translateForPod config pod).result = .ok rules := by
  simp [assign_ok_iff]

theorem fanOut_result (config : ClusterConfig) (pods : List Pod) :
    (fanOut config pods).result = (forEach (assign config) (ordered config pods)).result.map
      fun entries => (collect entries).map fun entry => ⟨entry.1, entry.2⟩ := by
  have selected : ∀ pod ∈ selectedPods config pods, config.podSelector.matches pod.labels = true := by
    intro pod member
    exact (List.mem_filter.mp (List.mem_mergeSort.mp member)).2
  have translated := forEach_filter (f := assign config) (g := translatePod config)
    (fun pod _ taken => translatePod_of_eligible taken)
    (fun pod member skipped => translatePod_of_not_eligible (selected pod member) skipped)
  rw [ordered, ← translated, fanOut, result_bind]
  cases (forEach (translatePod config) (selectedPods config pods)).result <;> rfl

theorem fanOut_ok_iff {nodes : List NodeConfig} :
    (fanOut config pods).result = .ok nodes ↔ ∃ entries,
      List.Forall₂ (fun pod entry => (assign config pod).result = .ok entry) (ordered config pods) entries ∧
      nodes = (collect entries).map fun entry => ⟨entry.1, entry.2⟩ := by
  rw [fanOut_result]
  simp only [← forEach_ok_iff]
  cases (forEach (assign config) (ordered config pods)).result <;> simp [Except.map, eq_comm]

theorem fanOut_error_iff {error : TranslateError} :
    (fanOut config pods).result = .error error ↔ ∃ before pod after,
      ordered config pods = before ++ pod :: after ∧
      (∀ earlier ∈ before, ∃ rules, (translateForPod config earlier).result = .ok rules) ∧
      (translateForPod config pod).result = .error error := by
  have same : (fanOut config pods).result = .error error ↔
      (forEach (assign config) (ordered config pods)).result = .error error := by
    rw [fanOut_result]
    cases (forEach (assign config) (ordered config pods)).result <;> simp [Except.map]
  rw [same, forEach_error_iff]
  simp only [assign_error_iff, assigned_iff]

/-- The nodes have increasing names, which are those of the pods that take part, and each node has the
rules of its pods, one pod after the other. -/
structure Distributes (config : ClusterConfig) (taken : List Pod) (nodes : List NodeConfig) : Prop where
  increasing : nodes.Pairwise fun left right => left.nodeName < right.nodeName
  names : ∀ name, (∃ node ∈ nodes, node.nodeName = name) ↔ ∃ pod ∈ taken, pod.nodeName = some name
  rules : ∀ node ∈ nodes, ∃ parts,
    List.Forall₂ (fun pod rules => (translateForPod config pod).result = .ok rules)
      (taken.filter (·.nodeName = some node.nodeName)) parts ∧ node.rules = parts.flatten

theorem scheduled_of_mem_ordered (member : pod ∈ ordered config pods) : pod.nodeName.isSome :=
  (eligible_iff.mp (List.mem_filter.mp member).2).2.1

theorem distributes_of_ok {nodes : List NodeConfig} (ok : (fanOut config pods).result = .ok nodes) :
    Distributes config (ordered config pods) nodes := by
  obtain ⟨entries, assigned, rfl⟩ := fanOut_ok_iff.mp ok
  have placed : List.Forall₂ (fun pod entry => pod.nodeName = some entry.1 ∧
      (translateForPod config pod).result = .ok entry.2) (ordered config pods) entries := by
    refine List.Forall₂.imp ?_ ((List.forall₂_and_left _ _).mpr ⟨fun _ => scheduled_of_mem_ordered, assigned⟩)
    rintro pod entry ⟨scheduled, assigned⟩
    obtain ⟨name, placed⟩ := Option.isSome_iff_exists.mp scheduled
    obtain ⟨same, translated⟩ := assign_ok_iff.mp assigned
    exact ⟨by rw [same, placed, Option.getD_some], translated⟩
  refine ⟨?_, ?_, ?_⟩
  · rw [List.pairwise_map]
    exact ordered_collect entries
  · intro name
    have names : (∃ node ∈ (collect entries).map fun entry => (⟨entry.1, entry.2⟩ : NodeConfig),
        node.nodeName = name) ↔ name ∈ entries.map Prod.fst := by
      simp [mem_collect_iff]
    rw [names]
    constructor
    · intro member
      obtain ⟨entry, inside, rfl⟩ := List.mem_map.mp member
      obtain ⟨pod, taken, scheduled, _⟩ := exists_of_forall₂ placed inside
      exact ⟨pod, taken, scheduled⟩
    · rintro ⟨pod, taken, scheduled⟩
      obtain ⟨entry, member, same, _⟩ := exists_of_forall₂ placed.flip taken
      exact List.mem_map.mpr ⟨entry, member, Option.some.inj (same.symm.trans scheduled)⟩
  · intro node member
    obtain ⟨⟨name, rules⟩, collected, rfl⟩ := List.mem_map.mp member
    obtain ⟨_, rfl⟩ := mem_collect_iff.mp collected
    have here := List.rel_filter (p := fun pod : Pod => decide (pod.nodeName = some name))
      (q := fun entry : String × List FlowRule => decide (entry.1 = name)) ?_ placed
    · refine ⟨(entries.filter (·.1 = name)).map Prod.snd, ?_, List.flatMap_def⟩
      exact List.forall₂_map_right_iff.mpr (here.imp fun _ _ => And.right)
    · rintro pod entry ⟨scheduled, _⟩
      simp [scheduled]

theorem mem_ordered_iff : pod ∈ ordered config pods ↔ pod ∈ pods ∧ eligible config pod = true :=
  (ordered_perm config pods).mem_iff.trans List.mem_filter

theorem exists_fanOut_ok_iff : (∃ nodes, (fanOut config pods).result = .ok nodes) ↔
    ∀ pod ∈ pods, eligible config pod = true →
      ∃ rules, (translateForPod config pod).result = .ok rules := by
  have same : (∃ nodes, (fanOut config pods).result = .ok nodes) ↔
      ∃ entries, (forEach (assign config) (ordered config pods)).result = .ok entries := by
    rw [fanOut_result]
    cases (forEach (assign config) (ordered config pods)).result <;> simp [Except.map]
  rw [same, exists_forEach_ok_iff]
  simp only [mem_ordered_iff, assigned_iff, and_imp]

/-- Pods that take part and have different keys are fanned out in the order of their keys, however they
are listed and whatever other pods there are; the first of them that is not translated makes the error. -/
theorem fan_out_by_key (config : ClusterConfig) (pods : List Pod)
    (distinct : ((pods.filter (eligible config)).map Pod.key).Nodup) :
    (∀ others : List Pod, (others.filter (eligible config)).Perm (pods.filter (eligible config)) →
      (fanOut config others).result = (fanOut config pods).result) ∧
    ((∃ nodes, (fanOut config pods).result = .ok nodes) ↔
      ∀ pod ∈ pods, eligible config pod = true →
        ∃ rules, (translateForPod config pod).result = .ok rules) ∧
    ∃ taken : List Pod, taken.Perm (pods.filter (eligible config)) ∧
      taken.Pairwise (fun left right => left.key < right.key) ∧
      (∀ nodes, (fanOut config pods).result = .ok nodes → Distributes config taken nodes) ∧
      ∀ error, (fanOut config pods).result = .error error ↔
        ∃ before pod after, taken = before ++ pod :: after ∧
          (∀ earlier ∈ before, ∃ rules, (translateForPod config earlier).result = .ok rules) ∧
          (translateForPod config pod).result = .error error := by
  refine ⟨?_, exists_fanOut_ok_iff, ordered config pods, ordered_perm config pods,
    ordered_strictly distinct, fun nodes => distributes_of_ok, fun error => fanOut_error_iff⟩
  intro others same
  rw [fanOut_result, fanOut_result, ordered_eq_of_perm distinct same]

/-- A rule without actions, for all pods. -/
def plainConfig : ClusterConfig := ⟨⟨[]⟩, [⟨0, [], [], none⟩]⟩

def placedPod (name node : String) : Pod := ⟨name, "default", some node, [], [(Pod.statusKey, "[]")]⟩

theorem fan_out_by_key_listed :
    let first := placedPod "first" "upper"
    let second := placedPod "second" "lower"
    let waiting : Pod := ⟨"third", "default", none, [], []⟩
    (([first, second].filter (eligible plainConfig)).map Pod.key).Nodup ∧
      (fanOut plainConfig [second, waiting, first]).result = (fanOut plainConfig [first, second]).result := by
  intro first second waiting
  have distinct : (([first, second].filter (eligible plainConfig)).map Pod.key).Nodup := by decide
  exact ⟨distinct, (fan_out_by_key plainConfig [first, second] distinct).1 [second, waiting, first] (by decide)⟩

end FanOut

end NicFlow.Translation
