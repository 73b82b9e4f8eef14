import NamespaceBackup.Quiescence
import NamespaceBackup.Saga.Basic

/-!
# Saving a namespace

A save waits until every controller has finished, takes the images of all machines if they are
included, and captures what is managed in a new bundle.

## Main definitions

* `Saga.quiesce`: waits for the controllers
* `Saga.ensureBundle`: makes the bundle, or finds the one made before
* `Saga.save`: images and bundle
* `Saga.savePass`: one pass of a save
-/

namespace NamespaceBackup.Saga

/-- Waits until every controller has finished. -/
def quiesce (settings : Settings) : Pass Unit := do
  let ns ← ofExcept (requestNamespace (← get))
  let inventory ← collect settings ns
  let report := Quiescence.evaluate inventory
  if report.quiesced then transition .saving "All controllers finished, saving"
  else transition .quiescing ("Waiting for controllers to finish: " ++ report.text)

/-- The bundle that captures an inventory for a request. -/
def newBundle (settings : Settings) (ns name marker bundleName : String) (inventory : Inventory)
    (snapshotNames : Dict String) : Bundle :=
  { metadata :=
      { name := some bundleName, ns := some ns
        labels := some <| .ofList
          [(settings.requestLabel, name), (settings.markerLabel, marker)] }
    content := inventory.toBundle snapshotNames }

/-- The name of the request's bundle, which is made if there is none yet. Bundles are found by the
request's marker, not by their name, because they outlive their request. -/
def ensureBundle (settings : Settings) (ns name marker : String) (inventory : Inventory)
    (snapshotNames : Dict String) : Pass String := do
  match ← Activity.call (.findBundle ns (settings.markerSelector marker)) with
  | some bundle => return Bundle.anyName bundle
  | none =>
    let now ← Activity.now
    let bundleName := name ++ "-" ++ toString now.seconds
    Activity.call <| .createBundle ns <|
      newBundle settings ns name marker bundleName inventory snapshotNames
    return bundleName

/-- The machines whose images are still to be taken, and all that are recorded. -/
def takeImages (settings : Settings) (ns name marker : String) (inventory : Inventory)
    (recorded : Dict String) : Pass (List String × Dict String) :=
  Activity.within recorded <|
    Imaging.runPass settings { ns, name, marker } .save inventory.vmSets
      (isFencing inventory.controlPlane)

/-- Makes the bundle and declares the request saved. -/
def finishSave (settings : Settings) (ns name marker : String) (inventory : Inventory)
    (status : Request.Status) : Pass Unit := do
  let bundleName ← ensureBundle settings ns name marker inventory status.snapshotNames
  let now ← Activity.now
  writeStatus { status with state := .saved, completionTimestamp := some now.text }
    ("Saved to Backup " ++ bundleName)

/-- Takes the images of all machines, if they are included, and makes the bundle. -/
def save (settings : Settings) : Pass Unit := do
  let request ← get
  let name := request.anyName
  let ns ← ofExcept (requestNamespace request)
  let marker ← ofExcept (requestMarker request)
  let inventory ← collect settings ns
  let status := request.currentStatus
  if request.spec.includeImages then
    let (pending, recorded) ← takeImages settings ns name marker inventory status.snapshotNames
    let status := { status with snapshotNames := recorded }
    if pending.isEmpty then finishSave settings ns name marker inventory status
    else writeStatus status ("Waiting for VM snapshots: " ++ ", ".intercalate pending)
  else finishSave settings ns name marker inventory status

/-- One pass of a save. -/
def savePass (settings : Settings) : Pass Unit := do
  if (← get).state = .empty then
    transition .quiescing "Waiting for all controllers to finish"
  match (← get).state with
  | .quiescing => quiesce settings
  | .saving => save settings
  | other =>
    throw (.invalidState ("state " ++ other.name ++ " is not part of the save saga"))

end NamespaceBackup.Saga
