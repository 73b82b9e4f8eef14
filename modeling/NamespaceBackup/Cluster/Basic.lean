import NamespaceBackup.Call
import NamespaceBackup.Object.Selector

/-!
# A cluster in memory

The objects of a cluster, namespace by namespace, and how the calls of a backup read and change
them. Everything is kept in ascending order of name.

## Main definitions

* `Space`: the objects of one namespace
* `Cluster`: the namespaces
* `Cluster.perform`: what a call answers and does
-/

namespace NamespaceBackup

/-- The objects of one namespace. -/
structure Space where
  /-- Managed objects by kind and name. -/
  managed : Dict (Dict Resource) := .empty
  configMaps : Dict ConfigMap := .empty
  secrets : Dict Secret := .empty
  bundles : Dict Bundle := .empty
  machines : Dict Resource := .empty
  snapshots : Dict Resource := .empty
  restores : Dict Resource := .empty
  requests : Dict Request := .empty
deriving DecidableEq, Inhabited

/-- The namespaces of a cluster. -/
structure Cluster where
  spaces : Dict Space := .empty
deriving DecidableEq, Inhabited

namespace Space

/-- The objects of a kind by name. -/
def ofKind (space : Space) (kind : String) : Dict Resource := (space.managed.find? kind).getD .empty

/-- The namespace with other objects of a kind. -/
def withKind (space : Space) (kind : String) (objects : Dict Resource) : Space :=
  { space with managed := space.managed.insert kind objects }

/-- The markers of a kind by name. -/
def markers (space : Space) : MarkerKind → Dict Resource
  | .snapshot => space.snapshots
  | .restore => space.restores

/-- The namespace with other markers of a kind. -/
def withMarkers (space : Space) (kind : MarkerKind) (markers : Dict Resource) : Space :=
  match kind with
  | .snapshot => { space with snapshots := markers }
  | .restore => { space with restores := markers }

/-- Stores an object as applied: the status of one that exists already stays. -/
def applied (objects : Dict Resource) (object : Resource) : Dict Resource :=
  let status := (objects.find? object.anyName).bind (·.fields.find? "status")
  objects.insert object.anyName <|
    match status with
    | some status => object.withField "status" status
    | none => object

end Space

namespace Cluster

/-- The objects of a namespace. -/
def space (cluster : Cluster) (ns : String) : Space := (cluster.spaces.find? ns).getD {}

/-- The cluster with other objects in a namespace. -/
def withSpace (cluster : Cluster) (ns : String) (space : Space) : Cluster :=
  ⟨cluster.spaces.insert ns space⟩

/-- The cluster after a change to one namespace. -/
def update (cluster : Cluster) (ns : String) (change : Space → Space) : Cluster :=
  cluster.withSpace ns (change (cluster.space ns))

/-- The namespace that a request is stored in. -/
def home (request : Request) : String := request.metadata.ns.getD ""

/-- A version after the next write. -/
def nextVersion (version : Option String) : String :=
  toString (((version.bind String.toNat?).getD 0) + 1)

/-- An entry changed, or the failure that there is none. -/
def modifyOrFail {α : Type} (dict : Dict α) (name : String) (change : α → α) :
    Except Failure (Dict α) :=
  match dict.find? name with
  | some value => .ok (dict.insert name (change value))
  | none => .error (.notFound name)

/-- An entry removed, or the failure that there is none. -/
def eraseOrFail {α : Type} (dict : Dict α) (name : String) : Except Failure (Dict α) :=
  if dict.contains name then .ok (dict.erase name) else .error (.notFound name)

/-- An entry added, or the failure that there is one already. -/
def addOrFail {α : Type} (dict : Dict α) (name : String) (value : α) : Except Failure (Dict α) :=
  if dict.contains name then .error (.conflict (name ++ " already exists"))
  else .ok (dict.insert name value)

/-- The answer of a call that changes one collection of a namespace. -/
def commit {α : Type} (cluster : Cluster) (ns : String) (change : Except Failure (Dict α))
    (store : Space → Dict α → Space) : Except Failure Unit × Cluster :=
  match change with
  | .ok dict => (.ok (), cluster.withSpace ns (store (cluster.space ns) dict))
  | .error failure => (.error failure, cluster)

/-- Writes a request's status, unless the request was written since it was read. -/
def writeStatus (cluster : Cluster) (request : Request) : Except Failure Request × Cluster :=
  let space := cluster.space (home request)
  match space.requests.find? request.anyName with
  | none => (.error (.notFound request.anyName), cluster)
  | some stored =>
    if stored.metadata.resourceVersion ≠ request.metadata.resourceVersion then
      (.error (.conflict "stale resourceVersion"), cluster)
    else
      let version := nextVersion stored.metadata.resourceVersion
      let stored :=
        { stored with
          metadata := { stored.metadata with resourceVersion := some version }
          status := request.status }
      (.ok stored, cluster.withSpace (home request)
        { space with requests := space.requests.insert request.anyName stored })

/-- What a call answers, and the cluster afterwards. Commands succeed and print nothing. -/
def perform (cluster : Cluster) : (call : Call) → Except Failure call.Answer × Cluster
  | .listManaged ns kind => (.ok ((cluster.space ns).ofKind kind.name).values, cluster)
  | .applyManaged ns kind object =>
    (.ok (), cluster.update ns fun space =>
      space.withKind kind.name (Space.applied (space.ofKind kind.name) object))
  | .patchManagedStatus ns kind name patch =>
    cluster.commit ns
      (modifyOrFail ((cluster.space ns).ofKind kind.name) name (·.patched patch))
      (·.withKind kind.name ·)
  | .deleteManaged ns kind name =>
    cluster.commit ns (eraseOrFail ((cluster.space ns).ofKind kind.name) name)
      (·.withKind kind.name ·)
  | .listConfigMaps ns selector =>
    (.ok ((cluster.space ns).configMaps.values.filter (Selector.selects selector ·.metadata)),
      cluster)
  | .applyConfigMap ns configMap =>
    (.ok (), cluster.update ns fun space =>
      { space with configMaps := space.configMaps.insert configMap.anyName configMap })
  | .deleteConfigMap ns name =>
    cluster.commit ns (eraseOrFail (cluster.space ns).configMaps name)
      ({ · with configMaps := · })
  | .listSecrets ns selector =>
    (.ok ((cluster.space ns).secrets.values.filter (Selector.selects selector ·.metadata)), cluster)
  | .applySecret ns secret =>
    (.ok (), cluster.update ns fun space =>
      { space with secrets := space.secrets.insert secret.anyName secret })
  | .deleteSecret ns name =>
    cluster.commit ns (eraseOrFail (cluster.space ns).secrets name) ({ · with secrets := · })
  | .getBundle ns name => (.ok ((cluster.space ns).bundles.find? name), cluster)
  | .findBundle ns selector =>
    (.ok ((cluster.space ns).bundles.values.find? (Selector.selects selector ·.metadata)), cluster)
  | .createBundle ns bundle =>
    cluster.commit ns (addOrFail (cluster.space ns).bundles bundle.anyName bundle)
      ({ · with bundles := · })
  | .updateStatus request => cluster.writeStatus request
  | .getMachine ns name => (.ok ((cluster.space ns).machines.find? name), cluster)
  | .patchMachine ns name patch =>
    cluster.commit ns (modifyOrFail (cluster.space ns).machines name (·.patched patch))
      ({ · with machines := · })
  | .listMarkers ns kind selector =>
    (.ok (((cluster.space ns).markers kind).values.filter (Selector.selects selector ·.metadata)),
      cluster)
  | .createMarker ns kind marker =>
    cluster.commit ns (addOrFail ((cluster.space ns).markers kind) marker.anyName marker)
      (·.withMarkers kind ·)
  | .runCommand _ _ => (.ok { success := true }, cluster)

end Cluster

end NamespaceBackup
