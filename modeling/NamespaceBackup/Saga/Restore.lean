import NamespaceBackup.Quiescence
import NamespaceBackup.Saga.Basic

/-!
# Restoring a namespace

A restore loads a bundle into its namespace, with the images of all machines if they are included,
and waits until every controller has brought the loaded objects up. A clean restore deletes
everything that is managed first.

## Main definitions

* `Saga.clean`: deletes what is managed
* `Saga.loadObjects`: loads the objects of a bundle
* `Saga.load`: loads a bundle with the images of the machines
* `Saga.awaitRestored`: waits for the controllers
* `Saga.restorePass`: one pass of a restore
-/

namespace NamespaceBackup.Saga

/-- The bundle that a request restores from. -/
def sourceBundle (ns : String) : Pass Bundle := do
  let spec := (← get).spec
  match spec.fault? with
  | some fault => throw (.configuration fault)
  | none =>
    let source := spec.restoreSource.getD ""
    match ← Activity.call (.getBundle ns source) with
    | some bundle => return bundle
    | none =>
      throw <| .configuration <|
        "Backup " ++ source ++ " to restore from does not exist in namespace " ++ ns

/-- Deletes everything that is managed, until nothing is left. -/
def clean (settings : Settings) (ns : String) : Pass Unit := do
  let inventory ← collect settings ns
  if ← inventory.clear ns then transition .loading "Namespace clean, loading Backup"
  else
    transition .cleaning
      ("Waiting for " ++ toString inventory.count ++ " objects to be deleted")

section Load

variable {σ : Type}

/-- Loads one object; if its kind has a state, the object waits for its controller from then
on. -/
def loadObject (ns reason : String) (kind : ManagedKind) (saved : Resource) : Activity σ Unit := do
  let object := saved.reloaded ns
  Activity.call (.applyManaged ns kind object)
  match kind.waitingStatus reason with
  | some status => Activity.call (.patchManagedStatus ns kind object.anyName status)
  | none => pure ()

/-- Loads the objects of one kind. -/
def loadKind (ns reason : String) (content : Bundle.Content) (kind : ManagedKind) :
    Activity σ Unit :=
  (content.objects kind.name).forM (loadObject ns reason kind)

/-- Loads all objects of a bundle: kind by kind in loading order, then config maps and secrets. -/
def loadObjects (ns reason : String) (content : Bundle.Content) : Activity σ Unit := do
  ManagedKind.all.forM (loadKind ns reason content)
  content.configMaps.forM fun m => Activity.call (.applyConfigMap ns (m.reloaded ns))
  content.secrets.forM fun s => Activity.call (.applySecret ns (s.reloaded ns))

end Load

/-- The machines whose images are still to be restored, and all that are recorded. -/
def restoreImages (settings : Settings) (ns name marker : String) (bundle : Bundle)
    (recorded : Dict String) : Pass (List String × Dict String) :=
  Activity.within recorded <|
    Imaging.runPass settings { ns, name, marker }
      (.restore bundle.anyName bundle.content.snapshotNames)
      (bundle.content.objects ManagedKind.vmSet.name)
      (isFencing (bundle.content.objects ManagedKind.controlPlane.name).head?)

/-- Declares a bundle loaded. -/
def finishLoad (bundle : Bundle) (status : Request.Status) : Pass Unit :=
  writeStatus { status with state := .reconciling }
    ("Loaded Backup " ++ bundle.anyName ++ ", waiting for controllers to reconcile")

/-- Loads a bundle, with the images of all machines if they are included. -/
def load (settings : Settings) (ns : String) (bundle : Bundle) : Pass Unit := do
  let request ← get
  let name := request.anyName
  loadObjects ns ("Restored by BackupRequest " ++ name) bundle.content
  let status := request.currentStatus
  if request.spec.includeImages then
    let marker ← ofExcept (requestMarker request)
    let (pending, recorded) ← restoreImages settings ns name marker bundle status.snapshotNames
    let status := { status with snapshotNames := recorded }
    if pending.isEmpty then finishLoad bundle status
    else writeStatus status ("Waiting for VM restores: " ++ ", ".intercalate pending)
  else finishLoad bundle status

/-- Waits until every controller has brought the loaded objects up. -/
def awaitRestored (settings : Settings) (ns : String) (bundle : Bundle) : Pass Unit := do
  let inventory ← collect settings ns
  let report := Quiescence.evaluateRestored bundle.content inventory
  if report.quiesced then
    let status := (← get).currentStatus
    let now ← Activity.now
    writeStatus { status with state := .restored, completionTimestamp := some now.text }
      ("Restored from Backup " ++ bundle.anyName)
  else
    transition .reconciling ("Waiting for restored objects to reconcile: " ++ report.text)

/-- One pass of a restore. -/
def restorePass (settings : Settings) : Pass Unit := do
  let ns ← ofExcept (requestNamespace (← get))
  let bundle ← sourceBundle ns
  let request ← get
  -- A bundle that does not exist is found out before anything is deleted.
  if request.state = .empty then
    if request.spec.mode = .cleanRestore then transition .cleaning "Removing managed objects"
    else transition .loading "Loading Backup"
  match (← get).state with
  | .cleaning => clean settings ns
  | .loading => load settings ns bundle
  | .reconciling => awaitRestored settings ns bundle
  | other =>
    throw (.invalidState ("state " ++ other.name ++ " is not part of the restore saga"))

end NamespaceBackup.Saga
