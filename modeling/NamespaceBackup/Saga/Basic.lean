import NamespaceBackup.Inventory.Collect
import NamespaceBackup.Machine.Imaging
import NamespaceBackup.Request.Codec

/-!
# Status writes of a pass

A pass works on a copy of its request. Whenever the status is written, the copy becomes what the
cluster stored, so that later writes of the same pass carry the version that the first one got.

## Main definitions

* `Saga.writeStatus`: writes a status, unless only times would change
* `Saga.transition`: writes a new state
* `Saga.requestNamespace`, `Saga.requestMarker`: what a request must have for its work
-/

namespace NamespaceBackup

namespace Request

/-- Whether two statuses differ in times of conditions at most. -/
def Status.agrees (a b : Status) : Bool :=
  a.state = b.state && a.snapshotNames = b.snapshotNames &&
    a.completionTimestamp = b.completionTimestamp &&
    Conditions.withoutTimes a.conditions = Conditions.withoutTimes b.conditions

theorem Status.agrees_iff {a b : Status} :
    a.agrees b = true ↔ a.state = b.state ∧ a.snapshotNames = b.snapshotNames ∧
      a.completionTimestamp = b.completionTimestamp ∧
      Conditions.withoutTimes a.conditions = Conditions.withoutTimes b.conditions := by
  simp only [agrees, Bool.and_eq_true, decide_eq_true_eq, and_assoc]

/-- A status whose current condition is that of its state. -/
def Status.announced (status : Status) (now : Instant) (message : String) : Status :=
  { status with
    conditions :=
      Conditions.promote now status.state.name status.state.name message status.conditions }

end Request

namespace Saga

/-- A part of a pass; its state is the pass's copy of the request. -/
abbrev Pass : Type → Type := Activity Request

/-- Writes a status together with the condition of its state. Nothing is written if only times
would change, so a request that waits does not wake itself. The clock is read once for both
conditions that change, as `Conditions.promote` says; read twice, their times could differ. -/
def writeStatus (status : Request.Status) (message : String) : Pass Unit := do
  let request ← get
  let now ← Activity.now
  let status := status.announced now message
  if request.currentStatus.agrees status then return
  let stored : Request ← Activity.call (.updateStatus { request with status := some status })
  -- From here on the pass holds the version that was stored.
  set stored

/-- Writes a new state and keeps the rest of the status. -/
def transition (state : State) (message : String) : Pass Unit := do
  let request ← get
  writeStatus { request.currentStatus with state } message

/-- The namespace that a request lives in. -/
def requestNamespace (request : Request) : Except Failure String :=
  match request.metadata.ns with
  | some ns => .ok ns
  | none =>
    .error <| .invalidState <| "BackupRequest " ++ request.anyName ++ " has no namespace"

theorem requestNamespace_eq_ok {request : Request} {ns : String} :
    requestNamespace request = .ok ns ↔ request.metadata.ns = some ns := by
  rw [requestNamespace]
  cases request.metadata.ns <;> simp

/-- The text that marks everything made for a request. -/
def requestMarker (request : Request) : Except Failure String :=
  match request.marker? with
  | some marker => .ok marker
  | none =>
    .error <| .invalidState <|
      "BackupRequest " ++ request.anyName ++ " has no creation timestamp"

/-- Whether a control plane asks for machines to leave their cluster before they are powered
off. -/
def isFencing (controlPlane : Option Resource) : Bool :=
  controlPlane.any fun object => object.at? ["spec", "enableFencing"] = some (.bool true)

/-- What is managed in a namespace. -/
def collect (settings : Settings) (ns : String) : Pass Inventory :=
  Inventory.collect ns settings.managedSelector

end Saga

end NamespaceBackup
