import NicFlow.Proofs.ClusterCheck

/-! What the actions of a cluster rule become for a pod. The check without pods has settled all but the
attachments of the interfaces, and of several with one interface the first is taken. -/

namespace NicFlow

open Log Traced

namespace Translation

variable {action : ClusterAction} {rule : ClusterRule} {pod : Pod}
  {attachments : List Attachment} {key interface address : String} {error : TranslateError}

section Attachments

variable {attachment : Attachment} {others : List Attachment}

/-- No attachment before it has the interface. -/
structure First (attachments : List Attachment) (interface : String) (attachment : Attachment) : Prop where
  here : attachment.interface = interface
  split : ∃ before after, attachments = before ++ attachment :: after ∧
    ∀ other ∈ before, other.interface ≠ interface

theorem find?_eq_some_iff_first :
    attachments.find? (·.interface = interface) = some attachment ↔ First attachments interface attachment := by
  rw [List.find?_eq_some_iff_append]
  simp only [decide_eq_true_eq, Bool.not_eq_true', decide_eq_false_iff_not]
  constructor
  · rintro ⟨here, split⟩
    exact ⟨here, split⟩
  · rintro ⟨here, split⟩
    exact ⟨here, split⟩

theorem First.mem (first : First attachments interface attachment) : attachment ∈ attachments := by
  obtain ⟨before, after, split, _⟩ := first.split
  simp [split]

private theorem first_cons (here : attachment.interface = interface) :
    First (attachment :: attachments) interface attachment :=
  ⟨here, [], attachments, rfl, List.forall_mem_nil _⟩

theorem absent_or_first (attachments : List Attachment) (interface : String) :
    (∀ attachment ∈ attachments, attachment.interface ≠ interface) ∨
      ∃ attachment, First attachments interface attachment := by
  cases found : attachments.find? (·.interface = interface) with
  | none => exact Or.inl (by simpa using found)
  | some attachment => exact Or.inr ⟨attachment, find?_eq_some_iff_first.mp found⟩

theorem pciAddressOf_absent (absent : ∀ attachment ∈ attachments, attachment.interface ≠ interface) :
    pciAddressOf key attachments interface = .error (.interfaceNotFound key interface) := by
  have none : attachments.find? (·.interface = interface) = none := by simpa using absent
  rw [pciAddressOf, none]

/-- The other attachments are not looked at. -/
theorem pciAddressOf_first (first : First attachments interface attachment) :
    pciAddressOf key attachments interface = pciAddressOf key [attachment] interface := by
  rw [pciAddressOf, pciAddressOf, find?_eq_some_iff_first.mpr first,
    find?_eq_some_iff_first.mpr (first_cons first.here)]

private theorem pciAddressOf_congr_iff (perm : attachments.Perm others) :
    pciAddressOf key others interface = pciAddressOf key attachments interface ↔
      ∀ left right, First attachments interface left → First others interface right →
        pciAddressOf key [right] interface = pciAddressOf key [left] interface := by
  constructor
  · intro same left right first firstOther
    rw [← pciAddressOf_first first, ← pciAddressOf_first firstOther, same]
  · intro alike
    rcases absent_or_first attachments interface with absent | ⟨left, first⟩
    · have absentOthers : ∀ attachment ∈ others, attachment.interface ≠ interface := by
        intro attachment member
        exact absent attachment (perm.mem_iff.mpr member)
      rw [pciAddressOf_absent absent, pciAddressOf_absent absentOthers]
    · rcases absent_or_first others interface with absent | ⟨right, firstOther⟩
      · exact absurd first.here (absent left (perm.mem_iff.mp first.mem))
      · rw [pciAddressOf_first first, pciAddressOf_first firstOther]
        exact alike left right first firstOther

/-- All attachments of the interface would give the same address, or the same error, by themselves. -/
def Unambiguous (key : String) (attachments : List Attachment) (interface : String) : Prop :=
  ∀ left ∈ attachments, ∀ right ∈ attachments, left.interface = interface → right.interface = interface →
    pciAddressOf key [left] interface = pciAddressOf key [right] interface

private theorem pciAddressOf_perm (unambiguous : Unambiguous key attachments interface) (perm : attachments.Perm others) :
    pciAddressOf key others interface = pciAddressOf key attachments interface := by
  apply (pciAddressOf_congr_iff perm).mpr
  intro left right first firstOther
  exact unambiguous right (perm.mem_iff.mpr firstOther.mem) left first.mem firstOther.here first.here

private theorem perm_invariant_iff :
    (∀ others, attachments.Perm others → pciAddressOf key others interface = pciAddressOf key attachments interface) ↔
      Unambiguous key attachments interface := by
  constructor
  · intro same
    have alone : ∀ attachment ∈ attachments, attachment.interface = interface →
        pciAddressOf key [attachment] interface = pciAddressOf key attachments interface := by
      intro attachment member here
      rw [← same _ (List.perm_cons_erase member)]
      exact (pciAddressOf_first (first_cons here)).symm
    intro left leftMember right rightMember leftHere rightHere
    rw [alone left leftMember leftHere, alone right rightMember rightHere]
  · intro unambiguous others perm
    exact pciAddressOf_perm unambiguous perm

private theorem deviceAction_inj {left right : String} (same : deviceAction left = deviceAction right) : left = right := by
  simpa [deviceAction, Json.ofFields, sortByKey, insertSorted] using same

theorem translateAction_eq (listed : pod.attachments = .ok attachments) :
    (translateAction action pod).result =
      checkAction action >>= fun conf => (pciAddressOf pod.key attachments conf.podInterface).map deviceAction := by
  simp only [translateAction, result_bind, result_of, result_report, result_pure, listed]
  cases checkAction action with
  | error error => rfl
  | ok conf =>
    show (pciAddressOf pod.key attachments conf.podInterface >>= fun address => .ok (deviceAction address)) =
      (pciAddressOf pod.key attachments conf.podInterface).map deviceAction
    cases pciAddressOf pod.key attachments conf.podInterface <;> rfl

private theorem map_deviceAction_inj {left right : Except TranslateError String}
    (same : left.map deviceAction = right.map deviceAction) : left = right := by
  cases left with
  | error fault =>
    cases right with
    | error other =>
      cases same
      rfl
    | ok address => cases same
  | ok address =>
    cases right with
    | error fault => cases same
    | ok other => exact congrArg Except.ok (deviceAction_inj (Except.ok.inj same))

private theorem translateAction_congr_iff {other : Pod} (sameKey : other.key = pod.key)
    (listed : pod.attachments = .ok attachments) (listedOther : other.attachments = .ok others) :
    (translateAction action other).result = (translateAction action pod).result ↔
      ∀ conf, checkAction action = .ok conf →
        pciAddressOf pod.key others conf.podInterface = pciAddressOf pod.key attachments conf.podInterface := by
  rw [translateAction_eq listed, translateAction_eq listedOther, sameKey]
  constructor
  · intro same conf checked
    rw [checked] at same
    exact map_deviceAction_inj same
  · intro alike
    cases checked : checkAction action with
    | error error => rfl
    | ok conf => exact congrArg (Except.map deviceAction) (alike conf checked)

/-- The order in which a pod lists its attachments matters exactly where several of them have the interface
and differ in what they give. -/
theorem attachment_order_exact (action : ClusterAction) {pod other : Pod} {attachments others : List Attachment}
    (sameKey : other.key = pod.key) (listed : pod.attachments = .ok attachments)
    (listedOther : other.attachments = .ok others) (perm : attachments.Perm others) :
    ((translateAction action other).result = (translateAction action pod).result ↔
      ∀ conf, checkAction action = .ok conf → ∀ left right,
        First attachments conf.podInterface left → First others conf.podInterface right →
        pciAddressOf pod.key [right] conf.podInterface = pciAddressOf pod.key [left] conf.podInterface) ∧
    ((∀ conf, checkAction action = .ok conf → Unambiguous pod.key attachments conf.podInterface) →
      (translateAction action other).result = (translateAction action pod).result) ∧
    ∀ interface,
      (∀ reordered, attachments.Perm reordered →
        pciAddressOf pod.key reordered interface = pciAddressOf pod.key attachments interface) ↔
      Unambiguous pod.key attachments interface := by
  refine ⟨?_, ?_, ?_⟩
  · rw [translateAction_congr_iff sameKey listed listedOther]
    simp only [pciAddressOf_congr_iff perm]
  · intro unambiguous
    apply (translateAction_congr_iff sameKey listed listedOther).mpr
    intro conf checked
    exact pciAddressOf_perm (unambiguous conf checked) perm
  · intro interface
    exact perm_invariant_iff

end Attachments

/-- An interface and the address of its device. -/
structure Link where
  interface : String
  address : String

namespace Link

def attachment (link : Link) : Attachment :=
  ⟨"", link.interface, [], "", false, some ⟨"pci", "", some ⟨link.address, ""⟩⟩⟩

def text (link : Link) : String :=
  "\x7b\"interface\":\"" ++ link.interface ++ "\",\"device-info\":" ++
    "\x7b\"type\":\"pci\",\"pci\":\x7b\"pci-address\":\"" ++ link.address ++ "\"\x7d\x7d\x7d"

end Link

/-- A pod whose annotation lists these attachments. -/
def linkedPod (links : List Link) : Pod :=
  { Check.routePod with
    annotations := [(Pod.statusKey, "[" ++ ",".intercalate (links.map Link.text) ++ "]")] }

def firstLink : Link := ⟨"net1", "0000:18:02.5"⟩

def secondLink : Link := ⟨"net1", "0000:18:02.6"⟩

def otherLink : Link := ⟨"net2", "0000:18:02.6"⟩

theorem attachments_of_toOption (listed : pod.attachments.toOption = some attachments) :
    pod.attachments = .ok attachments := by
  cases read : pod.attachments with
  | error error =>
    rw [read] at listed
    cases listed
  | ok found =>
    rw [read] at listed
    cases listed
    rfl

theorem attachment_order_exact_apart :
    (translateAction (.toPodInterface "net1") (linkedPod [otherLink, firstLink])).result =
      (translateAction (.toPodInterface "net1") (linkedPod [firstLink, otherLink])).result := by
  have listed : (linkedPod [firstLink, otherLink]).attachments = .ok [firstLink.attachment, otherLink.attachment] :=
    attachments_of_toOption (by decide +kernel)
  have listedOther : (linkedPod [otherLink, firstLink]).attachments =
      .ok [otherLink.attachment, firstLink.attachment] :=
    attachments_of_toOption (by decide +kernel)
  have sameKey : (linkedPod [otherLink, firstLink]).key = (linkedPod [firstLink, otherLink]).key := rfl
  have known : checkAction (.toPodInterface "net1") = .ok ⟨"net1"⟩ := rfl
  have only : ∀ attachment ∈ [firstLink.attachment, otherLink.attachment], attachment.interface = "net1" →
      attachment = firstLink.attachment := by
    decide
  apply (attachment_order_exact (.toPodInterface "net1") sameKey listed listedOther (.swap _ _ [])).2.1
  intro conf checked left leftMember right rightMember leftHere rightHere
  cases known.symm.trans checked
  rw [only left leftMember leftHere, only right rightMember rightHere]

/-- Of two devices with one interface, that of the first is taken in either order. -/
theorem attachment_order_matters :
    [firstLink.attachment, secondLink.attachment].Perm [secondLink.attachment, firstLink.attachment] ∧
    (linkedPod [firstLink, secondLink]).attachments = .ok [firstLink.attachment, secondLink.attachment] ∧
    (linkedPod [secondLink, firstLink]).attachments = .ok [secondLink.attachment, firstLink.attachment] ∧
    (translateAction (.toPodInterface "net1") (linkedPod [firstLink, secondLink])).result ≠
      (translateAction (.toPodInterface "net1") (linkedPod [secondLink, firstLink])).result := by
  have listed : (linkedPod [firstLink, secondLink]).attachments = .ok [firstLink.attachment, secondLink.attachment] :=
    attachments_of_toOption (by decide +kernel)
  have listedOther : (linkedPod [secondLink, firstLink]).attachments =
      .ok [secondLink.attachment, firstLink.attachment] :=
    attachments_of_toOption (by decide +kernel)
  have taken : (translateAction (.toPodInterface "net1") (linkedPod [firstLink, secondLink])).result =
      .ok (deviceAction firstLink.address) := by
    rw [translateAction_eq listed]
    rfl
  have takenOther : (translateAction (.toPodInterface "net1") (linkedPod [secondLink, firstLink])).result =
      .ok (deviceAction secondLink.address) := by
    rw [translateAction_eq listedOther]
    rfl
  refine ⟨.swap _ _ [], listed, listedOther, ?_⟩
  rw [taken, takenOther]
  intro same
  have different : firstLink.address ≠ secondLink.address := by decide
  exact different (deviceAction_inj (Except.ok.inj same))

section Check

/-- The first attachment of the interface is a PCI device, which has this address. -/
inductive Attached (attachments : List Attachment) (interface : String) : String → Prop where
  | device {attachment device pci} (first : First attachments interface attachment)
      (info : attachment.deviceInfo = some device) (type : device.type = "pci") (given : device.pci = some pci)
      (present : pci.pciAddress ≠ "") : Attached attachments interface pci.pciAddress

theorem pciAddressOf_ok_iff :
    pciAddressOf key attachments interface = .ok address ↔ Attached attachments interface address := by
  constructor
  · intro found
    rcases absent_or_first attachments interface with absent | ⟨attachment, first⟩
    · rw [pciAddressOf_absent absent] at found
      cases found
    · simp only [pciAddressOf, find?_eq_some_iff_first.mpr first] at found
      cases info : attachment.deviceInfo with
      | none => simp [info] at found
      | some device =>
        simp only [info, Option.getD_some] at found
        split at found
        · cases found
        next type =>
          split at found
          next pci given =>
            split at found
            · cases found
            next present =>
              cases found
              exact .device first info (by simpa using type) given (by simpa using present)
          · cases found
  · intro attached
    cases attached with
    | device first info type given present =>
      simp [pciAddressOf, find?_eq_some_iff_first.mpr first, info, type, given, present]

/-- The errors of an action that no pod has to do with. -/
inductive ActionFault : TranslateError → Prop where
  | unsupportedAction (type : String) : ActionFault (.unsupportedAction type)
  | invalidConf (action : String) (error : ReadError) : ActionFault (.invalidConf action error)
  | emptyInterface : ActionFault .emptyInterface

private theorem actionFault_of_checkAction (failed : checkAction action = .error error) : ActionFault error := by
  simp only [checkAction] at failed
  split at failed
  · cases failed
    exact .unsupportedAction _
  · rcases bind_eq_error_iff.mp failed with unread | ⟨conf, _, empty⟩
    · obtain ⟨source, _, rfl⟩ := mapError_eq_error_iff.mp unread
      exact .invalidConf _ source
    · split at empty
      · cases empty
        exact .emptyInterface
      · cases empty

private theorem not_actionFault_of_attachments (failed : pod.attachments = .error error) : ¬ ActionFault error := by
  intro fault
  rw [Pod.attachments] at failed
  split at failed
  · cases failed
    cases fault
  · obtain ⟨source, _, rfl⟩ := mapError_eq_error_iff.mp failed
    cases fault

private theorem PodFault.not_actionFault (podFault : PodFault key error) : ¬ ActionFault error := by
  intro fault
  cases podFault <;> cases fault

private theorem translateAction_error_iff :
    (translateAction action pod).result = .error error ↔ checkAction action = .error error ∨
      ∃ conf, checkAction action = .ok conf ∧ (pod.attachments = .error error ∨
        ∃ attachments, pod.attachments = .ok attachments ∧
          pciAddressOf pod.key attachments conf.podInterface = .error error) := by
  simp only [translateAction, bind_error_iff, result_of, result_report, result_pure, reduceCtorEq, and_false,
    exists_const, or_false]

private theorem translateAction_actionFault_iff :
    (translateAction action pod).result = .error error ∧ ActionFault error ↔ checkAction action = .error error := by
  rw [translateAction_error_iff]
  constructor
  · rintro ⟨refused | ⟨conf, _, unlisted | ⟨attachments, _, missing⟩⟩, fault⟩
    · exact refused
    · exact absurd fault (not_actionFault_of_attachments unlisted)
    · exact absurd fault (podFault_of_pciAddressOf missing).not_actionFault
  · intro refused
    exact ⟨Or.inl refused, actionFault_of_checkAction refused⟩

private theorem translateRule_actionFault (failed : (translateRule rule pod).result = .error error)
    (fault : ActionFault error) : checkRule rule = .error error := by
  rcases bind_error_iff.mp failed with failed | ⟨_, _, impossible⟩
  · obtain ⟨before, action, after, split, earlier, failed⟩ := forEach_error_iff.mp failed
    apply forM_eq_error_iff.mpr
    refine ⟨before, action, after, split, ?_, ?_⟩
    · intro other member
      obtain ⟨translated, ok⟩ := earlier other member
      obtain ⟨address, ⟨checked, _, _⟩, _⟩ := translateAction_ok_iff.mp ok
      rw [checked]
      rfl
    · rw [translateAction_actionFault_iff.mp ⟨failed, fault⟩]
      rfl
  · cases impossible

private theorem translateRule_ok_iff {translated : FlowRule} :
    (translateRule rule pod).result = .ok translated ↔
      ∃ addresses, List.Forall₂ (Routes · pod) rule.action addresses ∧ translated = nodeRule rule addresses := by
  constructor
  · exact nodeRule_of_translated
  · rintro ⟨addresses, routes, rfl⟩
    have each : List.Forall₂ (fun action value => (translateAction action pod).result = .ok value)
        rule.action (addresses.map deviceAction) := by
      apply List.forall₂_map_right_iff.mpr
      exact routes.imp fun _ address routed => translateAction_ok_iff.mpr ⟨address, routed, rfl⟩
    exact bind_ok_iff.mpr ⟨_, forEach_ok_iff.mpr each, rfl⟩

private theorem exists_translateRule_ok_iff :
    (∃ translated, (translateRule rule pod).result = .ok translated) ↔
      ∀ action ∈ rule.action, ∃ address, Routes action pod address := by
  constructor
  · rintro ⟨translated, ok⟩
    obtain ⟨values, all, _⟩ := bind_ok_iff.mp ok
    intro action member
    obtain ⟨value, translates⟩ := exists_forEach_ok_iff.mp ⟨values, all⟩ action member
    obtain ⟨address, routes, _⟩ := translateAction_ok_iff.mp translates
    exact ⟨address, routes⟩
  · intro routes
    have each : ∀ action ∈ rule.action, ∃ value, (translateAction action pod).result = .ok value := by
      intro action member
      obtain ⟨address, routed⟩ := routes action member
      exact ⟨_, translateAction_ok_iff.mpr ⟨address, routed, rfl⟩⟩
    obtain ⟨values, all⟩ := exists_forEach_ok_iff.mpr each
    exact ⟨_, bind_ok_iff.mpr ⟨values, all, rfl⟩⟩

/-- What an action names is attached, and has this address. -/
def Resolves (attachments : List Attachment) (action : ClusterAction) (address : String) : Prop :=
  ∃ conf, checkAction action = .ok conf ∧ Attached attachments conf.podInterface address

private theorem routes_iff (listed : pod.attachments = .ok attachments) :
    Routes action pod address ↔ Resolves attachments action address := by
  constructor
  · rintro ⟨checked, same, found⟩
    cases listed.symm.trans same
    exact ⟨_, checked, pciAddressOf_ok_iff.mp found⟩
  · rintro ⟨conf, checked, attached⟩
    exact .attached checked listed (pciAddressOf_ok_iff.mpr attached)

private theorem forall_resolves_iff :
    (∀ action ∈ rule.action, ∃ address, Resolves attachments action address) ↔
      checkRule rule = .ok () ∧ ∀ action ∈ rule.action, ∀ conf, checkAction action = .ok conf →
        ∃ address, Attached attachments conf.podInterface address := by
  rw [checkRule_ok_iff]
  constructor
  · intro resolves
    constructor
    · intro action member
      obtain ⟨_, conf, checked, _⟩ := resolves action member
      exact ⟨conf, checked⟩
    · intro action member conf checked
      obtain ⟨address, other, same, attached⟩ := resolves action member
      cases checked.symm.trans same
      exact ⟨address, attached⟩
  · rintro ⟨checked, attached⟩ action member
    obtain ⟨conf, known⟩ := checked action member
    obtain ⟨address, here⟩ := attached action member conf known
    exact ⟨address, conf, known, here⟩

/-- The check settles what no pod decides. The rest is decided by the first attachments of the interfaces,
whose devices a translated rule names one by one. -/
theorem check_decides_translation :
    (∀ action pod error, (translateAction action pod).result = .error error ∧ ActionFault error ↔
      checkAction action = .error error) ∧
    (∀ rule error, checkRule rule = .error error → ∀ pod,
      ∃ fault, (translateRule rule pod).result = .error fault ∧ (ActionFault fault → fault = error)) ∧
    ∀ rule pod attachments, pod.attachments = .ok attachments →
      ((∃ translated, (translateRule rule pod).result = .ok translated) ↔
        checkRule rule = .ok () ∧ ∀ action ∈ rule.action, ∀ conf, checkAction action = .ok conf →
          ∃ address, Attached attachments conf.podInterface address) ∧
      ∀ translated, (translateRule rule pod).result = .ok translated ↔
        ∃ addresses, List.Forall₂ (Resolves attachments) rule.action addresses ∧
          translated = nodeRule rule addresses := by
  refine ⟨fun action pod error => translateAction_actionFault_iff, ?_, ?_⟩
  · intro rule error refused pod
    cases result : (translateRule rule pod).result with
    | ok translated =>
      have routes := exists_translateRule_ok_iff.mp ⟨translated, result⟩
      have passed : checkRule rule = .ok () := by
        apply checkRule_ok_iff.mpr
        intro action member
        obtain ⟨address, ⟨checked, _, _⟩⟩ := routes action member
        exact ⟨_, checked⟩
      rw [passed] at refused
      cases refused
    | error fault =>
      refine ⟨fault, rfl, ?_⟩
      intro fromAction
      have same := (translateRule_actionFault result fromAction).symm.trans refused
      exact Except.error.inj same
  · intro rule pod attachments listed
    have resolves : (Routes · pod) = Resolves attachments := by
      funext action address
      exact propext (routes_iff listed)
    constructor
    · rw [exists_translateRule_ok_iff, ← forall_resolves_iff]
      simp only [routes_iff listed]
    · intro translated
      rw [translateRule_ok_iff, resolves]

theorem check_decides_translation_routePod :
    (translateRule ⟨0, [], [.toPodInterface "net1"], none⟩ Check.routePod).result =
      .ok (nodeRule ⟨0, [], [.toPodInterface "net1"], none⟩ ["0000:18:02.5"]) := by
  have decided := check_decides_translation.2.2 ⟨0, [], [.toPodInterface "net1"], none⟩ Check.routePod
    [Check.routeAttachment] Check.attachments_routePod
  have found : pciAddressOf Check.routePod.key [Check.routeAttachment] "net1" = .ok "0000:18:02.5" := rfl
  have resolves : Resolves [Check.routeAttachment] (.toPodInterface "net1") "0000:18:02.5" :=
    ⟨⟨"net1"⟩, rfl, pciAddressOf_ok_iff.mp found⟩
  exact (decided.2 _).mpr ⟨["0000:18:02.5"], .cons resolves .nil, rfl⟩

end Check

end Translation

end NicFlow
