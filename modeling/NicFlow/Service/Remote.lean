import NicFlow.Service.Call

/-! Calls of the flow service over a connection. A call goes out as a path and a message; back comes
a message or a status, unless the connection fails first. A message may carry an error of the
service. -/

namespace NicFlow

open Wire

namespace Call

def method : Call → String
  | .validate _ => "Validate"
  | .create _ => "Create"
  | .destroy _ _ => "Destroy"
  | .query _ _ => "Query"
  | .list _ => "List"
  | .flush _ => "Flush"
  | .isolate _ _ => "Isolate"
  | .listPorts => "ListPorts"

def path (call : Call) : String := "/flow.FlowService/" ++ call.method

def portMessage : Message := ⟨"RequestofPort", .ofList [("port_id", .uint32)]⟩

def flowMessage : Message :=
  ⟨"RequestFlowofPort", .ofList [("port_id", .uint32), ("flow_id", .uint32)]⟩

def isolateMessage : Message :=
  ⟨"RequestFlowIsolate", .ofList [("port_id", .uint32), ("set", .int32)]⟩

/-- The message that a call sends. -/
def encode : Call → Bytes
  | .validate request => request.encode
  | .create request => request.encode
  | .destroy portId flowId => flowMessage.encode (portId, flowId, ())
  | .query portId flowId => flowMessage.encode (portId, flowId, ())
  | .list portId => portMessage.encode (portId, ())
  | .flush portId => portMessage.encode (portId, ())
  | .isolate portId set => isolateMessage.encode (portId, (if set then 1 else 0 : Int32), ())
  | .listPorts => []

end Call

namespace Remote

/-- What comes back over a connection. -/
inductive Response where
  | message (bytes : Bytes)
  | status (code : StatusCode) (text : String)
  | unreachable (reason : String)

/-- The error field of a response. -/
def errorFields : Fields := .ofList [("type", .uint32), ("mesg", .string)]

def errorKind : Kind := .message "RteFlowError" errorFields

def emptyMessage : Message := ⟨"ResponseFlow", .ofList [("error_info", errorKind)]⟩

def createdMessage : Message :=
  ⟨"ResponseFlowCreate", .ofList [("error_info", errorKind), ("flow_id", .uint32)]⟩

def countFields : Fields :=
  .ofList [("reset", .uint32), ("hits_set", .uint32), ("bytes_set", .uint32), ("hits", .uint64),
    ("bytes", .uint64)]

def countMessage : Message :=
  ⟨"ResponseFlowQuery", .ofList
    [("error_info", errorKind), ("count", .message "RteFlowQueryCount" countFields)]⟩

def flowFields : Fields := .ofList [("flow_id", .uint32), ("description", .string)]

def flowsMessage : Message :=
  ⟨"ResponseFlowList", .ofList
    [("error_info", errorKind), ("flows", .messages "FlowInfo" flowFields)]⟩

def portFields : Fields :=
  .ofList [("port_id", .uint32), ("port_mode", .string), ("port_name", .string),
    ("port_pci", .string)]

def portsMessage : Message :=
  ⟨"ResponseListPorts", .ofList [("ports", .messages "PortsInformation" portFields)]⟩

/-- The error that a response carries; the kind zero is none. -/
def checkError (error : Option errorFields.Value) : Except RpcError Unit :=
  match error with
  | some ((kind : UInt32), text, _) => if kind = 0 then .ok () else .error (.flow kind text)
  | none => .ok ()

def countOfValue : countFields.Value → FlowCount
  | (reset, hitsSet, bytesSet, hits, bytes, _) => ⟨reset, hitsSet, bytesSet, hits, bytes⟩

def flowOfValue : flowFields.Value → FlowInfo
  | (flowId, description, _) => ⟨flowId, description⟩

def portOfValue : portFields.Value → Port
  | (portId, mode, name, pci, _) => ⟨portId, mode, name, pci⟩

def decodeMessage (message : Message) (bytes : Bytes) : Except RpcError message.Value :=
  (message.decode bytes).mapError fun error => .status .internal error.message

def decodeEmpty (bytes : Bytes) : Except RpcError Unit := do
  let (error, _) ← decodeMessage emptyMessage bytes
  checkError error

def decodeCreated (bytes : Bytes) : Except RpcError UInt32 := do
  let (error, flowId, _) ← decodeMessage createdMessage bytes
  checkError error
  return flowId

def decodeCount (bytes : Bytes) : Except RpcError FlowCount := do
  let (error, (count : Option countFields.Value), _) ← decodeMessage countMessage bytes
  checkError error
  return countOfValue (count.getD countFields.default)

def decodeFlows (bytes : Bytes) : Except RpcError (List FlowInfo) := do
  let (error, (flows : List flowFields.Value), _) ← decodeMessage flowsMessage bytes
  checkError error
  return flows.map flowOfValue

def decodePorts (bytes : Bytes) : Except RpcError (List Port) := do
  let ((ports : List portFields.Value), _) ← decodeMessage portsMessage bytes
  return ports.map portOfValue

/-- What the message of a response answers to a call. -/
def decodeAnswer (bytes : Bytes) : (call : Call) → call.Answer
  | .validate _ => decodeEmpty bytes
  | .create _ => decodeCreated bytes
  | .destroy _ _ => decodeEmpty bytes
  | .query _ _ => decodeCount bytes
  | .list _ => decodeFlows bytes
  | .flush _ => decodeEmpty bytes
  | .isolate _ _ => decodeEmpty bytes
  | .listPorts => decodePorts bytes

/-- The status of success must come with a message. -/
def statusError (code : StatusCode) (text : String) : RpcError :=
  if code = .ok then .status .internal "Missing response message." else .status code text

def answerOf (call : Call) : Response → call.Answer
  | .message bytes => decodeAnswer bytes call
  | .status code text => .error (statusError code text)
  | .unreachable reason => .error (.transport reason)

/-- A connection to a service whose state is a `τ`. -/
abbrev Connection (τ : Type) := Call → τ → Response × τ

/-- Answers calls over a connection. -/
def serve {τ : Type} (connection : Connection τ) (call : Call) (state : τ) : call.Answer × τ :=
  let (response, state) := connection call state
  (answerOf call response, state)

end Remote

end NicFlow
