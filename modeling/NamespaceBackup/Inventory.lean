import NamespaceBackup.Bundle
import NamespaceBackup.Kind

/-!
# Inventories

What a namespace holds at one moment of what a backup manages.

## Main definitions

* `Inventory`: managed objects by kind, config maps and secrets
* `Inventory.populatedKinds`: the managed kinds that have an entry, in loading order
* `Inventory.toBundle`: the content of a bundle that captures the inventory
-/

namespace NamespaceBackup

/-- What is managed in a namespace. -/
structure Inventory where
  /-- The objects, by the name of their kind. -/
  resources : Dict (List Resource) := .empty
  configMaps : List ConfigMap := []
  secrets : List Secret := []
deriving DecidableEq, Inhabited

namespace Inventory

/-- The objects of one kind. -/
def objects (inventory : Inventory) (kind : String) : List Resource :=
  (inventory.resources.find? kind).getD []

/-- The managed kinds that have an entry, with their objects, in loading order. -/
def populatedKinds (inventory : Inventory) : List (ManagedKind × List Resource) :=
  ManagedKind.all.filterMap fun kind =>
    (inventory.resources.find? kind.name).map fun objects => (kind, objects)

/-- The number of objects, config maps and secrets. -/
def count (inventory : Inventory) : Nat :=
  inventory.resources.values.flatten.length + inventory.configMaps.length +
    inventory.secrets.length

/-- Whether there is nothing at all. -/
def isEmpty (inventory : Inventory) : Bool := inventory.count = 0

/-- The sets of machines. -/
def vmSets (inventory : Inventory) : List Resource :=
  inventory.objects ManagedKind.vmSet.name

/-- The control plane: the first one, if there are several. -/
def controlPlane (inventory : Inventory) : Option Resource :=
  (inventory.objects ManagedKind.controlPlane.name).head?

/-- The content of a bundle that captures the inventory. -/
def toBundle (inventory : Inventory) (snapshotNames : Dict String) : Bundle.Content :=
  { resources := inventory.resources, configMaps := inventory.configMaps,
    secrets := inventory.secrets, snapshotNames }

@[simp] theorem objects_toBundle (inventory : Inventory) (names : Dict String) (kind : String) :
    (inventory.toBundle names).objects kind = inventory.objects kind := rfl

theorem isEmpty_iff {inventory : Inventory} :
    inventory.isEmpty = true ↔
      (∀ objects ∈ inventory.resources.values, objects = []) ∧ inventory.configMaps = [] ∧
        inventory.secrets = [] := by
  simp only [isEmpty, count, decide_eq_true_eq, Nat.add_eq_zero_iff, List.length_eq_zero_iff,
    List.flatten_eq_nil_iff, and_assoc]

end Inventory

end NamespaceBackup
