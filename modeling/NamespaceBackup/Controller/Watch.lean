import NamespaceBackup.Rest.Uri
import NamespaceBackup.Settings

/-!
# What the controller watches

The controller watches requests, and the bundles and markers that belong to them: an object made
for a request carries a label with the request's name.

## Main definitions

* `RequestId`: a request by namespace and name
* `Watch.owner?`: the request that an object was made for
* `Watch.uris`: the lists that are watched
-/

namespace NamespaceBackup

/-- A request by namespace and name. -/
structure RequestId where
  ns : String
  name : String
deriving DecidableEq, Repr

/-- The identity of a request. -/
def Request.id (request : Request) : RequestId :=
  ⟨request.metadata.ns.getD "", request.anyName⟩

namespace Watch

/-- The name of the controller. -/
def controllerName : String := "backup-request"

/-- The request that an object was made for: it lives in the object's namespace, and the object's
label names it. -/
def owner? (label : String) (metadata : Metadata) : Option RequestId := do
  let name ← metadata.label? label
  let ns ← metadata.ns
  pure ⟨ns, name⟩

/-- The kinds that are watched. -/
def resources : List ApiResource :=
  [.requests, .bundles, MarkerKind.snapshot.apiResource, MarkerKind.restore.apiResource]

/-- The lists that are watched in a namespace, or in all, in ascending order. -/
def uris (ns : Option String) : List String :=
  (resources.map (Rest.listUri ns)).mergeSort (fun a b => a ≤ b)

end Watch

end NamespaceBackup
