import NicFlow.Flow.Request

/-! The calls of the flow service, what each of them answers, and why a call fails. -/

namespace NicFlow

open Wire

/-- A port that the service serves. -/
structure Port where
  portId : UInt32
  mode : String
  name : String
  pci : String
deriving DecidableEq, Repr

/-- The counters of a flow. -/
structure FlowCount where
  reset : UInt32
  hitsSet : UInt32
  bytesSet : UInt32
  hits : UInt64
  bytes : UInt64
deriving DecidableEq, Repr

structure FlowInfo where
  flowId : UInt32
  description : String
deriving DecidableEq, Repr

/-- The codes with which a call can end. -/
inductive StatusCode where
  | ok | cancelled | unknown | invalidArgument | deadlineExceeded | notFound | alreadyExists
  | permissionDenied | resourceExhausted | failedPrecondition | aborted | outOfRange
  | unimplemented | internal | unavailable | dataLoss | unauthenticated
deriving DecidableEq, Repr

namespace StatusCode

def all : List StatusCode :=
  [.ok, .cancelled, .unknown, .invalidArgument, .deadlineExceeded, .notFound, .alreadyExists,
   .permissionDenied, .resourceExhausted, .failedPrecondition, .aborted, .outOfRange,
   .unimplemented, .internal, .unavailable, .dataLoss, .unauthenticated]

/-- Numbers without a code of their own are unknown errors. -/
def ofNumber (number : Nat) : StatusCode := (all[number]?).getD .unknown

def description : StatusCode → String
  | .ok => "The operation completed successfully"
  | .cancelled => "The operation was cancelled"
  | .unknown => "Unknown error"
  | .invalidArgument => "Client specified an invalid argument"
  | .deadlineExceeded => "Deadline expired before operation could complete"
  | .notFound => "Some requested entity was not found"
  | .alreadyExists => "Some entity that we attempted to create already exists"
  | .permissionDenied =>
    "The caller does not have permission to execute the specified operation"
  | .resourceExhausted => "Some resource has been exhausted"
  | .failedPrecondition =>
    "The system is not in a state required for the operation's execution"
  | .aborted => "The operation was aborted"
  | .outOfRange => "Operation was attempted past the valid range"
  | .unimplemented => "Operation is not implemented or not supported"
  | .internal => "Internal error"
  | .unavailable => "The service is currently unavailable"
  | .dataLoss => "Unrecoverable data loss or corruption"
  | .unauthenticated =>
    "The request does not have valid authentication credentials"

end StatusCode

inductive RpcError where
  | invalidEndpoint (endpoint reason : String)
  /-- There was no connection to make the call over. -/
  | transport (reason : String)
  | status (code : StatusCode) (text : String)
  /-- The service answered with an error of its own. -/
  | flow (kind : UInt32) (text : String)
  /-- The service did not answer; `last` is the error of the last attempt. -/
  | notReady (attempts : Nat) (last : Option RpcError)

def RpcError.message : RpcError → String
  | .invalidEndpoint endpoint reason => s!"invalid flow service endpoint '{endpoint}': {reason}"
  | .transport reason => s!"flow service unreachable: {reason}"
  | .status code text => s!"flow service call failed ({code.description}): {text}"
  | .flow kind text => s!"flow service error {kind}: {text}"
  | .notReady attempts _ => s!"flow service not ready after {attempts} attempts"

/-- A call of the flow service. -/
inductive Call where
  | validate (request : CreateRequest)
  | create (request : CreateRequest)
  | destroy (portId flowId : UInt32)
  | query (portId flowId : UInt32)
  | list (portId : UInt32)
  | flush (portId : UInt32)
  | isolate (portId : UInt32) (set : Bool)
  | listPorts

namespace Call

/-- What a successful call returns. -/
abbrev Reply : Call → Type
  | .validate _ => Unit
  | .create _ => UInt32
  | .destroy _ _ => Unit
  | .query _ _ => FlowCount
  | .list _ => List FlowInfo
  | .flush _ => Unit
  | .isolate _ _ => Unit
  | .listPorts => List Port

abbrev Answer (call : Call) : Type := Except RpcError call.Reply

def name : Call → String
  | .validate _ => "validate"
  | .create _ => "create"
  | .destroy _ _ => "destroy"
  | .query _ _ => "query"
  | .list _ => "list"
  | .flush _ => "flush"
  | .isolate _ _ => "isolate"
  | .listPorts => "list_ports"

end Call

end NicFlow
