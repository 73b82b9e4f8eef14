import NamespaceBackup.Object.Resource
import NamespaceBackup.Request.Codec

/-!
# Managed kinds

The kinds of the director's objects that a backup captures, in the order in which a restore loads
them. Each kind reports its progress at a place of its own in the status, and has its own names
for having finished.

## Main definitions

* `ApiResource`: where the API serves a kind
* `ManagedKind`: the kinds
* `ManagedKind.currentState`: the state that an object reports
* `ManagedKind.isFinished`: whether the controller of an object has finished
* `ManagedKind.waitingStatus`: the status of an object that has just been loaded
-/

namespace NamespaceBackup

/-- Where the API serves a kind. -/
structure ApiResource where
  /-- The API group; the core group has no name. -/
  group : String
  version : String
  kind : String
  plural : String
deriving DecidableEq, Repr

/-- Group and version, as objects give them. -/
def ApiResource.apiVersion (resource : ApiResource) : String :=
  if resource.group = "" then resource.version else resource.group ++ "/" ++ resource.version

/-- Where a kind reports its state. -/
inductive StateLocation where
  /-- At `status.currentState`. -/
  | currentState
  /-- At `status.provisioningStatus.state`. -/
  | provisioningStatus
  /-- Nowhere; objects of the kind never hold up a backup. -/
  | nowhere
deriving DecidableEq, Repr

/-- The place of the state as a path of field names. -/
def StateLocation.path? : StateLocation → Option (List String)
  | currentState => some ["status", "currentState"]
  | provisioningStatus => some ["status", "provisioningStatus", "state"]
  | nowhere => none

/-- The kinds that a backup captures. -/
inductive ManagedKind where
  | network
  | networkAttachment
  | networkConfig
  | macAddressRegistry
  | ipSet
  | provisionServer
  | baremetalSet
  | adminClient
  | vmSet
  | controlPlane
deriving DecidableEq, Repr

namespace ManagedKind

/-- All kinds, in the order in which a restore loads them. -/
def all : List ManagedKind :=
  [network, networkAttachment, networkConfig, macAddressRegistry, ipSet, provisionServer,
    baremetalSet, adminClient, vmSet, controlPlane]

/-- The name of a kind. -/
def name : ManagedKind → String
  | network => "Network"
  | networkAttachment => "NetworkAttachment"
  | networkConfig => "NetworkConfig"
  | macAddressRegistry => "MacAddressRegistry"
  | ipSet => "IpSet"
  | provisionServer => "ProvisionServer"
  | baremetalSet => "BaremetalSet"
  | adminClient => "AdminClient"
  | vmSet => "VmSet"
  | controlPlane => "ControlPlane"

/-- The name of a kind as the API lists it. -/
def plural : ManagedKind → String
  | network => "networks"
  | networkAttachment => "networkattachments"
  | networkConfig => "networkconfigs"
  | macAddressRegistry => "macaddressregistries"
  | ipSet => "ipsets"
  | provisionServer => "provisionservers"
  | baremetalSet => "baremetalsets"
  | adminClient => "adminclients"
  | vmSet => "vmsets"
  | controlPlane => "controlplanes"

/-- Where objects of a kind report their state. -/
def stateLocation : ManagedKind → StateLocation
  | network | networkAttachment | macAddressRegistry => .currentState
  | networkConfig | provisionServer | baremetalSet | vmSet | controlPlane => .provisioningStatus
  | ipSet | adminClient => .nowhere

/-- The states in which an object's controller has nothing left to do. -/
def finishedStates : ManagedKind → List String
  | network | networkConfig => ["Configured"]
  | networkAttachment => ["Attached"]
  | macAddressRegistry => ["Created"]
  | provisionServer | controlPlane => ["Provisioned"]
  | baremetalSet | vmSet => ["Provisioned", "Empty"]
  | ipSet | adminClient => []

/-- The kind of a name. -/
def ofName? (name : String) : Option ManagedKind := all.find? (·.name = name)

theorem ofName?_name (kind : ManagedKind) : ofName? kind.name = some kind := by
  cases kind <;> decide

theorem name_of_ofName? {name : String} {kind : ManagedKind} (h : ofName? name = some kind) :
    kind.name = name := by
  simpa using List.find?_some h

theorem mem_all (kind : ManagedKind) : kind ∈ all := by cases kind <;> decide

theorem name_injective {a b : ManagedKind} (h : a.name = b.name) : a = b := by
  have := ofName?_name a
  rw [h, ofName?_name b] at this
  exact (Option.some.inj this).symm

/-- Whether objects of a kind report a state at all. -/
def hasState (kind : ManagedKind) : Bool := kind.stateLocation ≠ .nowhere

/-- Where the API serves a kind. -/
def apiResource (kind : ManagedKind) : ApiResource :=
  { group := apiGroup, version := apiVersion, kind := kind.name, plural := kind.plural }

/-- The state that an object of the kind reports. -/
def currentState (kind : ManagedKind) (object : Resource) : Option String :=
  (kind.stateLocation.path?.bind object.at?).bind Json.str?

/-- Whether an object's controller has nothing left to do. -/
def isFinished (kind : ManagedKind) (object : Resource) : Bool :=
  if kind.hasState then
    (kind.currentState object).any (kind.finishedStates.contains ·)
  else true

/-- The state of an object that waits for its controller. -/
def waitingState : String := "Waiting"

/-- The status of an object that has just been loaded, as a merge patch: it waits for its
controller. Kinds without a state have none. -/
def waitingStatus (kind : ManagedKind) (reason : String) : Option Json :=
  match kind.stateLocation with
  | .currentState => some <| .object [("status", .object
      [("currentState", .str waitingState), ("conditions", .arr [])])]
  | .provisioningStatus => some <| .object [("status", .object [("provisioningStatus", .object
      [("state", .str waitingState), ("reason", .str reason)])])]
  | .nowhere => none

theorem isFinished_of_not_hasState {kind : ManagedKind} (h : kind.hasState = false)
    (object : Resource) : kind.isFinished object = true := by
  simp [isFinished, h]

end ManagedKind

end NamespaceBackup
