import NamespaceBackup.Failure
import NamespaceBackup.Net.Address
import NamespaceBackup.Object.Resource

/-!
# Machines and their sets

A machine is a virtual machine of the platform; whether it runs is read from and written to its
object. A set of machines lists its members with their addresses in its status.

## Main definitions

* `Machine.isKeptRunning`, `Machine.isReady`: what a machine's object says
* `Machine.powerOn`, `Machine.powerOff`: the patches that change it
* `MachineSet.members`, `MachineSet.size`: the members of a set and how many there should be
* `MachineSet.address`: the address of a member on a network
-/

namespace NamespaceBackup

namespace Machine

/-- The run strategy of a machine that is kept running. -/
def rerunOnFailure : String := "RerunOnFailure"

/-- Whether the platform keeps a machine running. -/
def isKeptRunning (machine : Resource) : Bool :=
  machine.at? ["spec", "runStrategy"] = some (.str rerunOnFailure)

/-- Whether a machine is up. -/
def isReady (machine : Resource) : Bool := machine.at? ["status", "ready"] = some (.bool true)

/-- The patch that powers a machine on. The platform refuses a machine that has both fields. -/
def powerOn : Json :=
  .object [("spec", .object [("running", .null), ("runStrategy", .str rerunOnFailure)])]

/-- The patch that powers a machine off. -/
def powerOff : Json :=
  .object [("spec", .object [("runStrategy", .null), ("running", .bool false)])]

end Machine

namespace MachineSet

/-- The names of the members, in ascending order. -/
def members (set : Resource) : List String :=
  (Dict.ofList (((set.at? ["status", "vmHosts"]).getD .null).fields)).keys

/-- How many members the set should have; zero if it does not say. -/
def size (set : Resource) : Int :=
  ((set.at? ["spec", "vmCount"]).bind (Source.signed? 64)).getD 0

/-- The address of a member on a network. -/
def address (set : Resource) (machine network : String) : Except Failure String :=
  match (set.at? ["status", "vmHosts", machine, "ipAddresses", network]).bind Json.str? with
  | none =>
    .error <| .invalidState <|
      "VM " ++ machine ++ " of VmSet " ++ set.anyName ++ " has no address on network " ++ network
  | some text =>
    match Cidr.parse text with
    | some cidr => .ok cidr.address.text
    | none =>
      .error <| .invalidState <|
        "VM " ++ machine ++ " address " ++ text ++ " is not a CIDR: invalid IP address syntax"

end MachineSet

end NamespaceBackup
