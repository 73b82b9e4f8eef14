import NamespaceBackup.Call
import NamespaceBackup.Inventory

/-!
# Collecting and clearing a namespace

An inventory is collected from the cluster anew on every pass. A clean restore deletes everything
that it lists, until a pass finds nothing left.

## Main definitions

* `Inventory.collect`: lists what is managed in a namespace
* `Inventory.clear`: deletes it
-/

namespace NamespaceBackup

namespace Inventory

variable {σ : Type}

/-- The objects of a managed kind as entries of an inventory; a kind without objects has none. -/
def collectKind (ns : String) (resources : Dict (List Resource)) (kind : ManagedKind) :
    Activity σ (Dict (List Resource)) := do
  let objects : List Resource ← Activity.call (.listManaged ns kind)
  return if objects.isEmpty then resources else resources.insert kind.name objects

/-- What is managed in a namespace: all objects of the managed kinds, and the config maps and
secrets that the selector selects. -/
def collect (ns selector : String) : Activity σ Inventory := do
  let resources ← ManagedKind.all.foldlM (collectKind ns) .empty
  let configMaps ← Activity.call (.listConfigMaps ns selector)
  let secrets ← Activity.call (.listSecrets ns selector)
  return { resources, configMaps, secrets }

/-- Makes a deletion. What is gone already counts as deleted, and a conflict is left to the next
pass. -/
def tolerate (deletion : Activity σ Unit) : Activity σ Unit := do
  match ← deletion.outcome with
  | .ok () => pure ()
  | .error failure =>
    if failure.isNotFound || failure.isConflict then pure () else throw failure

/-- Deletes the objects of one kind. -/
def clearKind (ns kindName : String) (objects : List Resource) : Activity σ Unit := do
  match ManagedKind.ofName? kindName with
  | none => throw (.invalidState ("unknown managed kind " ++ kindName))
  | some kind =>
    objects.forM fun object => tolerate (Activity.call (.deleteManaged ns kind object.anyName))

/-- Deletes everything in an inventory; tells whether there was nothing to delete. -/
def clear (ns : String) (inventory : Inventory) : Activity σ Bool := do
  if inventory.isEmpty then return true
  inventory.resources.entries.forM fun (kindName, objects) => clearKind ns kindName objects
  inventory.configMaps.forM fun m => tolerate (Activity.call (.deleteConfigMap ns m.anyName))
  inventory.secrets.forM fun s => tolerate (Activity.call (.deleteSecret ns s.anyName))
  return false

end Inventory

end NamespaceBackup
