import NicFlow.Address.Pci
import NicFlow.Rule.Basic

/-! Devices of a node, and selectors that pick them by the properties they give. -/

namespace NicFlow

structure Device where
  pciAddress : PciAddress
  vendorId : String
  deviceId : String
  driver : String

/-- A selector without a property takes any value of it. -/
structure DeviceSelector where
  vendorId : Option String
  deviceId : Option String
  pciAddress : Option PciAddress
  driver : Option String

def DeviceSelector.matches (selector : DeviceSelector) (device : Device) : Bool :=
  selector.vendorId.all (· = device.vendorId) ∧ selector.deviceId.all (· = device.deviceId) ∧
    selector.pciAddress.all (· = device.pciAddress) ∧ selector.driver.all (· = device.driver)

section Reading

variable {α : Type} [Document α]

def readPciAddress (document : α) : Read PciAddress := do
  let text ← readString document
  match PciAddress.parse text with
  | .ok address => return address
  | .error error => throw (.refused error.message)

def Device.reader : RecordReader α Device where
  name := "Device"
  fields := [{ name := "pciAddress", presence := .required },
    { name := "vendorId", presence := .required }, { name := "deviceId", presence := .required },
    { name := "driver", presence := .required }]
  closed := false
  start := ⟨⟨0, 0, 0, 0⟩, "", "", ""⟩
  assign position document device :=
    match position with
    | 0 => do return { device with pciAddress := ← readPciAddress document }
    | 1 => do return { device with vendorId := ← readString document }
    | 2 => do return { device with deviceId := ← readString document }
    | _ => do return { device with driver := ← readString document }

def DeviceSelector.reader : RecordReader α DeviceSelector where
  name := "DeviceSelector"
  fields := [{ name := "vendorId" }, { name := "deviceId" }, { name := "pciAddress" },
    { name := "driver" }]
  closed := false
  start := ⟨none, none, none, none⟩
  assign position document selector :=
    match position with
    | 0 => do return { selector with vendorId := ← readOption readString document }
    | 1 => do return { selector with deviceId := ← readOption readString document }
    | 2 => do return { selector with pciAddress := ← readOption readPciAddress document }
    | _ => do return { selector with driver := ← readOption readString document }

end Reading

def Device.toJson (device : Device) : Json :=
  .ofFields [("pciAddress", .string device.pciAddress.render),
    ("vendorId", .string device.vendorId), ("deviceId", .string device.deviceId),
    ("driver", .string device.driver)]

def DeviceSelector.toJson (selector : DeviceSelector) : Json :=
  .ofFields (optionalEntry "vendorId" .string selector.vendorId ++
    optionalEntry "deviceId" .string selector.deviceId ++
    optionalEntry "pciAddress" (fun address => .string address.render) selector.pciAddress ++
    optionalEntry "driver" .string selector.driver)

end NicFlow
