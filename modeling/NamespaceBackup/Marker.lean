import NamespaceBackup.Kind

/-!
# Markers

A marker is the object that asks the platform to take or to restore the image of one machine. Its
status tells when that is done.

## Main definitions

* `MarkerKind`: the two kinds of markers
* `MarkerKind.isFor`: whether a marker belongs to a snapshot
* `MarkerKind.isReady`: whether the platform is done with a marker
* `machineResource`: where the API serves machines
-/

namespace NamespaceBackup

/-- The kinds of markers. -/
inductive MarkerKind where
  /-- Asks for an image to be taken. -/
  | snapshot
  /-- Asks for an image to be restored. -/
  | restore
deriving DecidableEq, Repr

/-- The API group of machines. -/
def machineGroup : String := "kubevirt.io"

/-- The kind of machines. -/
def machineKind : String := "VirtualMachine"

/-- Where the API serves machines. -/
def machineResource : ApiResource :=
  { group := machineGroup, version := "v1", kind := machineKind, plural := "virtualmachines" }

namespace MarkerKind

/-- The name of a kind. -/
def name : MarkerKind → String
  | snapshot => "VirtualMachineSnapshot"
  | restore => "VirtualMachineRestore"

/-- The name of a kind as the API lists it. -/
def plural : MarkerKind → String
  | snapshot => "virtualmachinesnapshots"
  | restore => "virtualmachinerestores"

/-- Where the API serves a kind. -/
def apiResource (kind : MarkerKind) : ApiResource :=
  { group := "snapshot.kubevirt.io", version := "v1alpha1", kind := kind.name,
    plural := kind.plural }

/-- Whether a marker takes, or restores from, the given snapshot. -/
def isFor (kind : MarkerKind) (marker : Resource) (snapshotName : String) : Bool :=
  match kind with
  | snapshot => marker.anyName = snapshotName
  | restore => marker.at? ["spec", "virtualMachineSnapshotName"] = some (.str snapshotName)

/-- The place where a marker says that the platform is done. -/
def readyPath : MarkerKind → List String
  | snapshot => ["status", "readyToUse"]
  | restore => ["status", "complete"]

/-- Whether the platform is done with a marker. -/
def isReady (kind : MarkerKind) (marker : Resource) : Bool :=
  marker.at? kind.readyPath = some (.bool true)

end MarkerKind

end NamespaceBackup
