import NicFlow.Proofs.SortedEntries
import NicFlow.Service.FlowTable

/-! What calls do to the flow table. An id is given out once, over all ports, as long as fewer
flows were created than there are ids. -/

namespace NicFlow

instance : Std.Irrefl (· < · : FlowKey → FlowKey → Prop) where
  irrefl := by
    rintro key (port | ⟨_, flow⟩)
    · exact UInt32.lt_irrefl _ port
    · exact UInt32.lt_irrefl _ flow

/-- The flows that an answer acknowledges. -/
def createdFlows : (call : Call) → call.Answer → List (FlowKey × CreateRequest)
  | .create request, .ok flowId => [(⟨request.portId, flowId⟩, request)]
  | _, _ => []

/-- A call that takes no flow from a table. -/
def Call.Spares : Call → Prop
  | .destroy _ _ => False
  | .flush _ => False
  | _ => True

namespace FlowTable

def Kept (table after : FlowTable) : Prop :=
  after.flows = table.flows ∧ after.nextFlowId = table.nextFlowId

theorem serve_create (table : FlowTable) (request : CreateRequest) :
    (∃ after, table.serve (.create request) = (.error injected, after) ∧ table.Kept after) ∨
    (∃ after : FlowTable, table.serve (.create request) = (.ok table.nextFlowId, after) ∧
      after.flows = insertSorted ⟨request.portId, table.nextFlowId⟩ request table.flows ∧
      after.nextFlowId = table.nextFlowId + 1) := by
  by_cases working : table.createFailures = 0
  · exact Or.inr ⟨_, if_neg (not_not_intro working), rfl, rfl⟩
  · exact Or.inl ⟨_, if_pos working, rfl, rfl⟩

theorem serve_listPorts (table : FlowTable) :
    (∃ after, table.serve .listPorts = (.error injected, after) ∧ table.Kept after) ∨
    (∃ after, table.serve .listPorts = (.ok table.ports, after) ∧ table.Kept after) := by
  by_cases working : table.listPortsFailures = 0
  · exact Or.inr ⟨_, if_neg (not_not_intro working), rfl, rfl⟩
  · exact Or.inl ⟨_, if_pos working, rfl, rfl⟩

theorem serve_destroy {table : FlowTable} {portId flowId : UInt32} {request : CreateRequest}
    (installed : (⟨portId, flowId⟩, request) ∈ table.flows) :
    (∃ after, table.serve (.destroy portId flowId) = (.error injected, after) ∧ table.Kept after) ∨
    (∃ after : FlowTable, table.serve (.destroy portId flowId) = (.ok (), after) ∧
      after.flows = eraseKey ⟨portId, flowId⟩ table.flows ∧
      after.nextFlowId = table.nextFlowId) := by
  by_cases working : table.destroyFailures = 0
  · have found : table.flows.lookup ⟨portId, flowId⟩ = some request :=
      (mem_iff_lookup_eq_some table.ordered.keys_nodup).mp installed
    refine Or.inr ⟨(table.serve (.destroy portId flowId)).2, ?_, ?_, ?_⟩ <;>
      simp [serve, destroy, working, found]
  · exact Or.inl ⟨_, if_pos working, rfl, rfl⟩

/-- So many flows were created, and the ids of those that are left are below. -/
structure Numbered (table : FlowTable) (created : Nat) : Prop where
  next : table.nextFlowId.toNat = created
  below : ∀ entry ∈ table.flows, entry.1.flowId.toNat < created

theorem Numbered.empty : Numbered .empty 0 :=
  ⟨rfl, List.forall_mem_nil _⟩

theorem Numbered.kept {table after : FlowTable} {created : Nat} (numbered : table.Numbered created)
    (kept : table.Kept after) : after.Numbered created :=
  ⟨kept.2 ▸ numbered.next, kept.1 ▸ numbered.below⟩

theorem Numbered.erased {table after : FlowTable} {created : Nat} {key : FlowKey}
    (numbered : table.Numbered created) (flows : after.flows = eraseKey key table.flows)
    (next : after.nextFlowId = table.nextFlowId) : after.Numbered created := by
  refine ⟨next ▸ numbered.next, ?_⟩
  intro entry member
  rw [flows] at member
  exact numbered.below entry (List.mem_filter.mp member).1

theorem Numbered.absent {table : FlowTable} {created : Nat} (numbered : table.Numbered created)
    (portId : UInt32) : ⟨portId, table.nextFlowId⟩ ∉ table.flows.map Prod.fst := by
  intro member
  obtain ⟨entry, inside, same⟩ := List.mem_map.mp member
  have smaller := numbered.below entry inside
  rw [same, numbered.next] at smaller
  exact Nat.lt_irrefl _ smaller

variable {table : FlowTable} {created : Nat}

/-- A call that spares the flows only adds what it acknowledges. -/
theorem serve_spared (numbered : table.Numbered created) {call : Call} (spares : call.Spares)
    (few : created + (createdFlows call (table.serve call).1).length < UInt32.size) :
    (table.serve call).2.flows.Perm (createdFlows call (table.serve call).1 ++ table.flows) ∧
      (table.serve call).2.Numbered (created + (createdFlows call (table.serve call).1).length) := by
  cases call with
  | destroy => exact spares.elim
  | flush => exact spares.elim
  | validate | query | list | isolate => exact ⟨.refl _, numbered.kept ⟨rfl, rfl⟩⟩
  | listPorts =>
    rcases serve_listPorts table with ⟨after, served, kept⟩ | ⟨after, served, kept⟩ <;> rw [served]
    · exact ⟨kept.1 ▸ .refl _, numbered.kept kept⟩
    · exact ⟨kept.1 ▸ .refl _, numbered.kept kept⟩
  | create request =>
    rcases serve_create table request with ⟨after, served, kept⟩ | ⟨after, served, flows, next⟩
    · rw [served]
      exact ⟨kept.1 ▸ .refl _, numbered.kept kept⟩
    · rw [served] at few ⊢
      have added : after.flows.Perm ((⟨request.portId, table.nextFlowId⟩, request) :: table.flows) :=
        flows ▸ perm_insertSorted request (numbered.absent request.portId)
      refine ⟨added, ?_, ?_⟩
      · rw [next, UInt32.toNat_add, numbered.next]
        exact Nat.mod_eq_of_lt few
      · intro entry member
        rcases List.mem_cons.mp (added.mem_iff.mp member) with rfl | inside
        · exact Nat.lt_succ_of_le (Nat.le_of_eq numbered.next)
        · exact Nat.lt_succ_of_lt (numbered.below entry inside)

end FlowTable

end NicFlow
