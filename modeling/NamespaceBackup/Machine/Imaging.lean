import NamespaceBackup.Machine.Basic
import NamespaceBackup.Machine.Membership

/-!
# Machine images

Images are taken, or restored, of one machine of each set at a time. A machine leaves its cluster
and is powered off before its marker is made; once the marker is ready the machine is powered on
and joins its cluster again, and then counts as recorded. Nothing but the map of recorded machines
is remembered from pass to pass.

## Main definitions

* `Imaging.Request`, `Imaging.Task`: for whom images are handled, and what is done
* `Imaging.startMachine`: leave, power off, make the marker
* `Imaging.finishMachine`: power on, join
* `Imaging.runSet`, `Imaging.runPass`: one pass over a set, and over all sets
-/

namespace NamespaceBackup

namespace Imaging

/-- The request that images are handled for. -/
structure Request where
  /-- Its namespace. -/
  ns : String
  name : String
  /-- The text that marks everything made for it. -/
  marker : String
deriving DecidableEq, Repr

/-- What is done to each machine. -/
inductive Task where
  /-- An image is taken. -/
  | save
  /-- An image is restored from the snapshot that a bundle names. -/
  | restore (bundle : String) (snapshotNames : Dict String)
deriving DecidableEq

/-- The kind of marker that a task makes. -/
def Task.markerKind : Task → MarkerKind
  | save => .snapshot
  | restore .. => .restore

/-- The snapshot that is taken of a machine, or that it is restored from. -/
def snapshotName (request : Request) (task : Task) (machine : String) : Except Failure String :=
  match task with
  | .save => .ok (machine ++ "-" ++ request.marker)
  | .restore bundle names =>
    match names.find? machine with
    | some name => .ok name
    | none =>
      .error <| .invalidState <|
        "no snapshot for VM " ++ machine ++ " in Backup " ++ bundle ++ " (BackupRequest " ++
          request.name ++ ")"

/-- The smallest cluster that keeps its quorum with one member out. -/
def minFencedSize : Int := 3

/-- Whether the machines of a set leave their cluster before they are powered off. -/
def isFenced (fencing : Bool) (set : Resource) : Bool :=
  fencing && minFencedSize ≤ MachineSet.size set

/-- The address at which a machine's membership is changed; none if the set is not fenced. -/
def fencedAddress (settings : Settings) (fencing : Bool) (set : Resource) (machine : String) :
    Except Failure (Option String) :=
  if isFenced fencing set then (MachineSet.address set machine settings.haNetwork).map some
  else .ok none

/-- The marker of a machine. -/
def buildMarker (settings : Settings) (request : Request) (task : Task)
    (machine snapshotName : String) : Resource :=
  let reference := Json.object
    [("apiGroup", .str machineGroup), ("kind", .str machineKind), ("name", .str machine)]
  let (name, spec) := match task with
    | .save => (snapshotName, Json.object [("source", reference)])
    | .restore .. => (machine ++ "-" ++ request.marker, Json.object
        [("target", reference), ("virtualMachineSnapshotName", .str snapshotName)])
  let resource := task.markerKind.apiResource
  { types := some { apiVersion := resource.apiVersion, kind := resource.kind }
    metadata :=
      { name := some name, ns := some request.ns
        labels := some <| .ofList
          [(settings.markerLabel, request.marker), (settings.requestLabel, request.name)] }
    fields := .ofList [("spec", spec)] }

variable {σ : Type}

/-- Brings a machine with a marker back once the marker is ready; tells whether the machine runs
and is back in its cluster. -/
def finishMachine (settings : Settings) (request : Request) (machine : String)
    (markerReady : Bool) (address : Option String) : Activity σ Bool := do
  if !markerReady then return false
  match ← Activity.call (.getMachine request.ns machine) with
  | none => return false
  | some object =>
    if !Machine.isKeptRunning object then
      Activity.call (.patchMachine request.ns machine Machine.powerOn)
      return false
    else if !Machine.isReady object then return false
    else match address with
      | some address => Membership.apply settings request.ns address .start machine
      | none => return true

/-- Makes a marker; one that exists already is the request's own. -/
def createMarker (request : Request) (task : Task) (marker : Resource) : Activity σ Unit := do
  match ← (Activity.call (.createMarker request.ns task.markerKind marker)).outcome with
  | .ok () => pure ()
  | .error failure => if failure.isConflict then pure () else throw failure

/-- Takes a machine out of its cluster, powers it off and makes its marker. -/
def startMachine (settings : Settings) (request : Request) (task : Task)
    (machine snapshotName : String) (address : Option String) : Activity σ Unit := do
  let stopped ← match address with
    | some address => Membership.apply settings request.ns address .stop machine
    | none => pure true
  if !stopped then return
  match ← Activity.call (.getMachine request.ns machine) with
  | none => return
  | some object =>
    -- Whether a machine is up decides, not whether it asks to run.
    if Machine.isReady object then
      Activity.call (.patchMachine request.ns machine Machine.powerOff)
    createMarker request task (buildMarker settings request task machine snapshotName)

/-- Does the next step for one machine; tells whether the machine is finished. -/
def runMachine (settings : Settings) (request : Request) (task : Task) (markers : List Resource)
    (machine snapshotName : String) (address : Option String) : Activity σ Bool :=
  match markers.find? (task.markerKind.isFor · snapshotName) with
  | some marker =>
    finishMachine settings request machine (task.markerKind.isReady marker) address
  | none => do
    startMachine settings request task machine snapshotName address
    return false

/-- Works on the members of a set that are not recorded yet, in order, up to the first that is not
finished; gives the members still pending. In a fenced set the pass ends with the first member
that is finished, because its cluster must settle before the next one leaves. -/
def runMembers (settings : Settings) (request : Request) (task : Task) (markers : List Resource)
    (fencing : Bool) (set : Resource) : List String → Activity (Dict String) (List String)
  | [] => pure []
  | machine :: rest => do
    let snapshotName ← ofExcept (snapshotName request task machine)
    let address ← ofExcept (fencedAddress settings fencing set machine)
    let finished ← runMachine settings request task markers machine snapshotName address
    if !finished then return machine :: rest
    modify (·.insert machine snapshotName)
    -- The cluster settles before its next member leaves.
    if address.isSome then return rest
    runMembers settings request task markers fencing set rest

/-- One pass over a set; gives its members still pending. -/
def runSet (settings : Settings) (request : Request) (task : Task) (markers : List Resource)
    (fencing : Bool) (set : Resource) : Activity (Dict String) (List String) := do
  let recorded ← get
  runMembers settings request task markers fencing set
    ((MachineSet.members set).filter (!recorded.contains ·))

/-- One pass over sets of machines, one after the other; gives the members still pending of all
sets. The state is the map of recorded machines. -/
def runPass (settings : Settings) (request : Request) (task : Task) (sets : List Resource)
    (fencing : Bool) : Activity (Dict String) (List String) := do
  let markers ← Activity.call <|
    .listMarkers request.ns task.markerKind (settings.markerSelector request.marker)
  let pending ← sets.mapM (runSet settings request task markers fencing)
  return pending.flatten

end Imaging

end NamespaceBackup
