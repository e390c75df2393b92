import NicFlow.Address.Pci
import NicFlow.Log.Event

/-! Finding the index of a virtual function of a physical one. The directory of the physical function
holds a link for each of its virtual functions, named by the index. -/

namespace NicFlow

open Log

inductive VfError where
  /-- A directory or a link cannot be read. -/
  | io (path reason : String)
  | notFound (pf vf : PciAddress)
  | pci (error : PciError)
deriving DecidableEq, Repr

def VfError.message : VfError → String
  | .io path reason => s!"cannot read {path}: {reason}"
  | .notFound pf vf => s!"{vf.render} is not a VF of {pf.render}"
  | .pci error => error.message

/-- Finds the index of a virtual function, given the physical and the virtual one. -/
abbrev VfLookup := PciAddress → PciAddress → Traced VfError Nat

/-- An entry of a directory, with the target if it is a link. -/
structure DirectoryEntry where
  name : String
  link : Option String
deriving DecidableEq, Repr

/-- The directory of a physical function. -/
structure DeviceDirectory where
  name : String
  entries : List DirectoryEntry
deriving DecidableEq, Repr

namespace DeviceDirectory

def target : String := "flowconfig_agent::vf"

def missingReason : String := "No such file or directory (os error 2)"

def notLinkReason : String := "Invalid argument (os error 22)"

/-- The index that the name of an entry gives, a 32 bit number after a fixed word. -/
def indexOfName? (name : String) : Option Nat :=
  match name.toList with
  | 'v' :: 'i' :: 'r' :: 't' :: 'f' :: 'n' :: digits =>
    let unsigned := match digits with
      | '+' :: rest => rest
      | _ => digits
    (Text.ofDecimal? unsigned).filter (· < 0x100000000)
  | _ => none

/-- The last name of a path. Empty parts and those that stay in place do not count, and a part that
leads up is no name. -/
def fileName? (path : String) : Option String :=
  let parts := (Text.splitAll '/' path.toList).filter fun part => part ≠ [] ∧ part ≠ ['.']
  match parts.getLast? with
  | some ['.', '.'] => none
  | some part => some (String.ofList part)
  | none => none

/-- The address that the target of a link ends in. -/
def linkedAddress (path : String) (entry : DirectoryEntry) :
    Except VfError (Option PciAddress) :=
  match entry.link with
  | none => .error (.io (path ++ "/" ++ entry.name) notLinkReason)
  | some link =>
    match fileName? link with
    | none => .ok none
    | some name => ((PciAddress.parse name).map some).mapError .pci

/-- Looks through the entries in their order. -/
def find (path : String) (pf vf : PciAddress) : List DirectoryEntry → Traced VfError Nat
  | [] => .fail (.notFound pf vf)
  | entry :: rest =>
    match indexOfName? entry.name with
    | none => find path pf vf rest
    | some index => do
      let address ← .of (linkedAddress path entry)
      if address = some vf then
        .report (.trace target s!"{vf.render} is VF {index} of {pf.render}")
        return index
      else find path pf vf rest

end DeviceDirectory

/-- The lookup in the directories below a root. -/
def VfLookup.ofDirectories (root : String) (directories : List DeviceDirectory) : VfLookup :=
  fun pf vf =>
    let path := root ++ "/bus/pci/devices/" ++ pf.render
    match directories.find? (·.name = pf.render) with
    | none => .fail (.io path DeviceDirectory.missingReason)
    | some directory => DeviceDirectory.find path pf vf directory.entries

/-- An entry of a table of virtual functions. -/
structure VfEntry where
  pf : PciAddress
  vf : PciAddress
  index : Nat
deriving DecidableEq, Repr

/-- The lookup in a table; the last entry of a pair counts. -/
def VfLookup.ofTable (table : List VfEntry) : VfLookup := fun pf vf =>
  match table.reverse.find? fun entry => entry.pf = pf ∧ entry.vf = vf with
  | some entry => return entry.index
  | none => .fail (.notFound pf vf)

end NicFlow
