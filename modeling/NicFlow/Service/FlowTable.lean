import NicFlow.Service.Call
import NicFlow.Sorted

/-! A flow service in memory: a table of flows with counted failures. Flow ids are given out in order,
over all ports. -/

namespace NicFlow

/-- Where a flow is installed. -/
structure FlowKey where
  portId : UInt32
  flowId : UInt32
deriving DecidableEq, Repr

instance : LT FlowKey := ⟨fun left right =>
  left.portId < right.portId ∨ (left.portId = right.portId ∧ left.flowId < right.flowId)⟩

instance : DecidableLT FlowKey := fun left right =>
  inferInstanceAs (Decidable
    (left.portId < right.portId ∨ (left.portId = right.portId ∧ left.flowId < right.flowId)))

instance : Trans (· < · : FlowKey → FlowKey → Prop) (· < ·) (· < ·) where
  trans := by
    rintro first second third (port | ⟨samePort, flow⟩) (nextPort | ⟨sameNextPort, nextFlow⟩)
    · exact Or.inl (UInt32.lt_trans port nextPort)
    · exact Or.inl (sameNextPort ▸ port)
    · exact Or.inl (samePort ▸ nextPort)
    · exact Or.inr ⟨samePort.trans sameNextPort, UInt32.lt_trans flow nextFlow⟩

instance : Std.Trichotomous (· < · : FlowKey → FlowKey → Prop) where
  trichotomous := by
    rintro ⟨port, flow⟩ ⟨otherPort, otherFlow⟩ notLess notGreater
    have samePort : port = otherPort :=
      UInt32.le_antisymm (UInt32.not_lt.mp fun greater => notGreater (Or.inl greater))
        (UInt32.not_lt.mp fun less => notLess (Or.inl less))
    subst samePort
    have sameFlow : flow = otherFlow :=
      UInt32.le_antisymm (UInt32.not_lt.mp fun greater => notGreater (Or.inr ⟨rfl, greater⟩))
        (UInt32.not_lt.mp fun less => notLess (Or.inr ⟨rfl, less⟩))
    rw [sameFlow]

structure FlowTable where
  ports : List Port
  /-- The installed flows by port and id. -/
  flows : List (FlowKey × CreateRequest)
  ordered : Ordered flows
  nextFlowId : UInt32
  /-- How many of the next calls of a kind fail. -/
  listPortsFailures : Nat
  createFailures : Nat
  destroyFailures : Nat
  /-- The names of all calls so far. -/
  calls : List String

namespace FlowTable

def empty : FlowTable := ⟨[], [], .nil, 0, 0, 0, 0, []⟩

def addPort (table : FlowTable) (portId : UInt32) (pci : String) : FlowTable :=
  { table with ports := table.ports ++ [⟨portId, "hw", s!"port{portId}", pci⟩] }

def failNextListPorts (table : FlowTable) (count : Nat) : FlowTable :=
  { table with listPortsFailures := count }

def failNextCreate (table : FlowTable) (count : Nat) : FlowTable :=
  { table with createFailures := count }

def failNextDestroy (table : FlowTable) (count : Nat) : FlowTable :=
  { table with destroyFailures := count }

/-- The error of a call that was made to fail. -/
def injected : RpcError := .status .unavailable "injected failure"

def noFlow (portId flowId : UInt32) : RpcError := .flow 1 s!"no flow {flowId} on port {portId}"

def create (table : FlowTable) (request : CreateRequest) : Except RpcError UInt32 × FlowTable :=
  if table.createFailures ≠ 0 then
    (.error injected, { table with createFailures := table.createFailures - 1 })
  else
    (.ok table.nextFlowId,
      { table with
        flows := insertSorted ⟨request.portId, table.nextFlowId⟩ request table.flows
        ordered := table.ordered.insertSorted _ _
        nextFlowId := table.nextFlowId + 1 })

def destroy (table : FlowTable) (portId flowId : UInt32) : Except RpcError Unit × FlowTable :=
  if table.destroyFailures ≠ 0 then
    (.error injected, { table with destroyFailures := table.destroyFailures - 1 })
  else
    match table.flows.lookup ⟨portId, flowId⟩ with
    | some _ =>
      (.ok (),
        { table with
          flows := eraseKey ⟨portId, flowId⟩ table.flows
          ordered := table.ordered.eraseKey _ })
    | none => (.error (noFlow portId flowId), table)

def query (table : FlowTable) (portId flowId : UInt32) : Except RpcError FlowCount :=
  match table.flows.lookup ⟨portId, flowId⟩ with
  | some _ => .ok ⟨0, 0, 0, 0, 0⟩
  | none => .error (noFlow portId flowId)

def list (table : FlowTable) (portId : UInt32) : List FlowInfo :=
  (table.flows.filter fun (key, _) => key.portId = portId).map fun (key, _) => ⟨key.flowId, ""⟩

def flush (table : FlowTable) (portId : UInt32) : FlowTable :=
  { table with
    flows := table.flows.filter fun (key, _) => key.portId ≠ portId
    ordered := table.ordered.filter _ }

def listPorts (table : FlowTable) : Except RpcError (List Port) × FlowTable :=
  if table.listPortsFailures ≠ 0 then
    (.error injected, { table with listPortsFailures := table.listPortsFailures - 1 })
  else (.ok table.ports, table)

/-- Answers a call, after noting it. -/
def serve (call : Call) (table : FlowTable) : call.Answer × FlowTable :=
  let table := { table with calls := table.calls ++ [call.name] }
  match call with
  | .validate _ => (.ok (), table)
  | .create request => table.create request
  | .destroy portId flowId => table.destroy portId flowId
  | .query portId flowId => (table.query portId flowId, table)
  | .list portId => (.ok (table.list portId), table)
  | .flush portId => (.ok (), table.flush portId)
  | .isolate _ _ => (.ok (), table)
  | .listPorts => table.listPorts

end FlowTable

end NicFlow
