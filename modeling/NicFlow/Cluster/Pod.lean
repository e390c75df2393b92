import NicFlow.Rule.Basic

/-! Pods with their labels and annotations, and the network attachments that an annotation lists. -/

namespace NicFlow

/-- The addresses of an attached PCI function. -/
structure PciDevice where
  pciAddress : String
  pfPciAddress : String
deriving DecidableEq

structure DeviceInfo where
  type : String
  version : String
  pci : Option PciDevice
deriving DecidableEq

/-- A network interface of a pod. -/
structure Attachment where
  name : String
  interface : String
  ips : List String
  mac : String
  default : Bool
  deviceInfo : Option DeviceInfo
deriving DecidableEq

/-- Labels and annotations are sorted by key. -/
structure Pod where
  name : String
  namespaceName : String
  nodeName : Option String
  labels : List (String × String)
  annotations : List (String × String)
deriving DecidableEq

/-- Selects pods that carry all of some labels. -/
structure LabelSelector where
  matchLabels : List (String × String)
deriving DecidableEq

def LabelSelector.matches (selector : LabelSelector) (labels : List (String × String)) : Bool :=
  selector.matchLabels.all fun (key, value) => labels.lookup key = some value

section Reading

variable {α : Type} [Document α]

def PciDevice.reader : RecordReader α PciDevice where
  name := "PciDevice"
  fields := [{ name := "pci-address" }, { name := "pf-pci-address" }]
  closed := false
  start := ⟨"", ""⟩
  assign position document device :=
    match position with
    | 0 => do return { device with pciAddress := ← readString document }
    | _ => do return { device with pfPciAddress := ← readString document }

def DeviceInfo.reader : RecordReader α DeviceInfo where
  name := "DeviceInfo"
  fields := [{ name := "type" }, { name := "version" }, { name := "pci" }]
  closed := false
  start := ⟨"", "", none⟩
  assign position document info :=
    match position with
    | 0 => do return { info with type := ← readString document }
    | 1 => do return { info with version := ← readString document }
    | _ => do return { info with pci := ← readOption PciDevice.reader.read document }

def Attachment.reader : RecordReader α Attachment where
  name := "NetworkStatus"
  fields := [{ name := "name" }, { name := "interface" }, { name := "ips" }, { name := "mac" },
    { name := "default" }, { name := "device-info" }]
  closed := false
  start := ⟨"", "", [], "", false, none⟩
  assign position document attachment :=
    match position with
    | 0 => do return { attachment with name := ← readString document }
    | 1 => do return { attachment with interface := ← readString document }
    | 2 => do return { attachment with ips := ← readList readString document }
    | 3 => do return { attachment with mac := ← readString document }
    | 4 => do return { attachment with default := ← readBool document }
    | _ => do return { attachment with deviceInfo := ← readOption DeviceInfo.reader.read document }

def Pod.reader : RecordReader α Pod where
  name := "Pod"
  fields := [{ name := "name" }, { name := "namespace" }, { name := "nodeName" },
    { name := "labels" }, { name := "annotations" }]
  closed := false
  start := ⟨"", "", none, [], []⟩
  assign position document pod :=
    match position with
    | 0 => do return { pod with name := ← readString document }
    | 1 => do return { pod with namespaceName := ← readString document }
    | 2 => do return { pod with nodeName := ← readOption readString document }
    | 3 => do return { pod with labels := ← readMap readString document }
    | _ => do return { pod with annotations := ← readMap readString document }

def LabelSelector.reader : RecordReader α LabelSelector where
  name := "LabelSelector"
  fields := [{ name := "matchLabels" }]
  closed := false
  start := ⟨[]⟩
  assign _ document selector := do
    return { selector with matchLabels := ← readMap readString document }

end Reading

namespace Attachment

/-- The attachments listed in a JSON text. -/
def parseList (text : String) : Read (List Attachment) := do
  let (document, rest) := TextDocument.ofText text
  let attachments ← readList Attachment.reader.read document
  match TextDocument.trailing? rest with
  | some error => .error (.malformed error)
  | none => return attachments

def toJson (attachment : Attachment) : Json :=
  .ofFields ([("name", .string attachment.name), ("interface", .string attachment.interface)] ++
    (if attachment.ips.isEmpty then [] else [("ips", .array (attachment.ips.map .string))]) ++
    (if attachment.mac.isEmpty then [] else [("mac", .string attachment.mac)]) ++
    [("default", .bool attachment.default)] ++
    optionalEntry "device-info" deviceInfo attachment.deviceInfo)
where
  pciDevice (device : PciDevice) : Json :=
    .ofFields ([("pci-address", .string device.pciAddress)] ++
      (if device.pfPciAddress.isEmpty then []
        else [("pf-pci-address", .string device.pfPciAddress)]))
  deviceInfo (info : DeviceInfo) : Json :=
    .ofFields ([("type", .string info.type), ("version", .string info.version)] ++
      optionalEntry "pci" pciDevice info.pci)

end Attachment

namespace Pod

/-- The namespace and name, which identify a pod. -/
def key (pod : Pod) : String := pod.namespaceName ++ "/" ++ pod.name

/-- The annotation that lists the attachments of a pod. -/
def statusKey : String := "k8s.v1.cni.cncf.io/network-status"

def texts (entries : List (String × String)) : Json :=
  .object (entries.map fun (key, value) => (key, .string value))

def toJson (pod : Pod) : Json :=
  .ofFields ([("name", .string pod.name), ("namespace", .string pod.namespaceName)] ++
    optionalEntry "nodeName" .string pod.nodeName ++
    [("labels", texts pod.labels), ("annotations", texts pod.annotations)])

end Pod

def LabelSelector.toJson (selector : LabelSelector) : Json :=
  .ofFields [("matchLabels", Pod.texts selector.matchLabels)]

end NicFlow
