import NicFlow.Text.Quoted
import NicFlow.Text.Split

/-! Addresses of PCI functions, written `domain:bus:device.function` in hexadecimal. A device has at
most 32 numbers and a function at most eight. -/

namespace NicFlow

structure PciAddress where
  domain : UInt16
  bus : UInt8
  device : UInt8
  function : UInt8
deriving DecidableEq, Repr

inductive PciComponent where
  | domain | bus | device | function
deriving DecidableEq, Repr

def PciComponent.name : PciComponent → String
  | .domain => "domain"
  | .bus => "bus"
  | .device => "device"
  | .function => "function"

inductive PciError where
  /-- The text does not have the form of an address. -/
  | malformed (text : String)
  /-- A component has the right length but no valid value. -/
  | invalid (text : String) (component : PciComponent) (found : String)
deriving DecidableEq, Repr

def PciError.message : PciError → String
  | .malformed text =>
    s!"invalid PCI address '{text}': should be domain:bus:device.function"
  | .invalid text component found =>
    s!"invalid PCI address '{text}': {component.name} '{found}' is not valid"

namespace PciAddress

def maxDevice : Nat := 0x1f

def maxFunction : Nat := 0x7

def render (address : PciAddress) : String :=
  String.ofList (Text.hexDigits 4 address.domain.toNat) ++ ":" ++
    String.ofList (Text.hexDigits 2 address.bus.toNat) ++ ":" ++
    String.ofList (Text.hexDigits 2 address.device.toNat) ++ "." ++
    Text.hex 1 address.function.toNat

/-- The address of the given components, if device and function are in range. -/
def ofComponents (domain : UInt16) (bus device function : UInt8) : Except PciError PciAddress :=
  let address : PciAddress := ⟨domain, bus, device, function⟩
  if device.toNat > maxDevice then
    .error (.invalid address.render .device (toString device.toNat))
  else if function.toNat > maxFunction then
    .error (.invalid address.render .function (toString function.toNat))
  else .ok address

/-- The four components of a text of the right form, in order. -/
def components? (text : List Char) : Option (List Char × List Char × List Char × List Char) :=
  if text.all (fun character => character.toNat < 128) ∧ text.length = 12 then
    match Text.splitAll ':' text with
    | [domain, bus, rest] =>
      match Text.splitFirst '.' rest with
      | some (device, function) =>
        if domain.length = 4 ∧ bus.length = 2 ∧ device.length = 2 ∧ function.length = 1 then
          some (domain, bus, device, function)
        else none
      | none => none
    | _ => none
  else none

def parse (text : String) : Except PciError PciAddress :=
  match components? text.toList with
  | none => .error (.malformed text)
  | some (domain, bus, device, function) =>
    let invalid (component : PciComponent) (found : List Char) : Except PciError PciAddress :=
      .error (.invalid text component (String.ofList found))
    match Text.ofHex? domain, Text.ofHex? bus, Text.ofHex? device, Text.ofHex? function with
    | none, _, _, _ => invalid .domain domain
    | _, none, _, _ => invalid .bus bus
    | _, _, none, _ => invalid .device device
    | _, _, _, none => invalid .function function
    | some domainNumber, some busNumber, some deviceNumber, some functionNumber =>
      if deviceNumber > maxDevice then invalid .device device
      else if functionNumber > maxFunction then invalid .function function
      else .ok ⟨UInt16.ofNat domainNumber, UInt8.ofNat busNumber, UInt8.ofNat deviceNumber,
        UInt8.ofNat functionNumber⟩

end PciAddress

end NicFlow
