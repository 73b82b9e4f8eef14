import NamespaceBackup.Json.Record
import NamespaceBackup.Time.Timestamp

/-!
# Object metadata

What every object of the cluster carries besides its content. Fields that the cluster does not
know are dropped when metadata is read, absent fields are left out when it is written.

## Main definitions

* `Metadata`: the metadata of one object
* `Metadata.anyName`: the name an object goes by
* `Metadata.label?`: the value of a label
* `Metadata.ofJson?`, `Metadata.toJson`: reading and writing
-/

namespace NamespaceBackup

/-- A reference from an object to one that owns it. -/
structure OwnerReference where
  apiVersion : String
  blockOwnerDeletion : Option Bool
  controller : Option Bool
  kind : String
  name : String
  uid : String
deriving DecidableEq

/-- The record of which fields of an object one writer manages. -/
structure FieldOwnership where
  apiVersion : Option String
  fieldsType : Option String
  fieldsV1 : Option Json
  manager : Option String
  operation : Option String
  subresource : Option String
  time : Option Timestamp
deriving DecidableEq

/-- The metadata of an object. -/
structure Metadata where
  annotations : Option (Dict String) := none
  creationTimestamp : Option Timestamp := none
  deletionGracePeriodSeconds : Option Int := none
  deletionTimestamp : Option Timestamp := none
  finalizers : Option (List String) := none
  generateName : Option String := none
  generation : Option Int := none
  labels : Option (Dict String) := none
  managedFields : Option (List FieldOwnership) := none
  name : Option String := none
  /-- The namespace the object lives in. -/
  ns : Option String := none
  ownerReferences : Option (List OwnerReference) := none
  resourceVersion : Option String := none
  selfLink : Option String := none
  uid : Option String := none
deriving DecidableEq, Inhabited

namespace Timestamp

/-- A point in time, read from a text value. -/
def ofJson? {σ : Type} [Json.Source σ] (json : σ) : Option Timestamp := (Source.text? json).bind parse

/-- A point in time as a text value. -/
def toJson (t : Timestamp) : Json := .str t.text

end Timestamp

namespace OwnerReference

/-- Reads a reference; texts that are absent or `null` are empty. -/
def ofJson? {σ : Type} [Json.Source σ] (json : σ) : Option OwnerReference := do
  let record ← Record.ofObject? json
  let text (name : String) : Option String := (record.nullable name Source.text?).map (·.getD "")
  pure {
    apiVersion := ← text "apiVersion"
    blockOwnerDeletion := ← record.nullable "blockOwnerDeletion" Source.truth?
    controller := ← record.nullable "controller" Source.truth?
    kind := ← text "kind"
    name := ← text "name"
    uid := ← text "uid" }

/-- Writes a reference. -/
def toJson (r : OwnerReference) : Json :=
  .object <| [("apiVersion", .str r.apiVersion), ("kind", .str r.kind), ("name", .str r.name),
      ("uid", .str r.uid)] ++
    Json.optional "blockOwnerDeletion" (r.blockOwnerDeletion.map .bool) ++
    Json.optional "controller" (r.controller.map .bool)

end OwnerReference

namespace FieldOwnership

/-- Reads an entry. -/
def ofJson? {σ : Type} [Json.Source σ] (json : σ) : Option FieldOwnership := do
  let record ← Record.ofObject? json
  pure {
    apiVersion := ← record.nullable "apiVersion" Source.text?
    fieldsType := ← record.nullable "fieldsType" Source.text?
    fieldsV1 := ← record.nullable "fieldsV1" Json.Source.value?
    manager := ← record.nullable "manager" Source.text?
    operation := ← record.nullable "operation" Source.text?
    subresource := ← record.nullable "subresource" Source.text?
    time := ← record.nullable "time" Timestamp.ofJson? }

/-- Writes an entry. -/
def toJson (f : FieldOwnership) : Json :=
  .object <| Json.optional "apiVersion" (f.apiVersion.map .str) ++
    Json.optional "fieldsType" (f.fieldsType.map .str) ++
    Json.optional "fieldsV1" f.fieldsV1 ++
    Json.optional "manager" (f.manager.map .str) ++
    Json.optional "operation" (f.operation.map .str) ++
    Json.optional "subresource" (f.subresource.map .str) ++
    Json.optional "time" (f.time.map Timestamp.toJson)

end FieldOwnership

namespace Metadata

/-- The name an object goes by: its name, else the start of a generated one. -/
def anyName (m : Metadata) : String := (m.name <|> m.generateName).getD ""

/-- The value of the label `key`. -/
def label? (m : Metadata) (key : String) : Option String := m.labels.bind (·.find? key)

/-- Reads metadata. -/
def ofJson? {σ : Type} [Json.Source σ] (json : σ) : Option Metadata := do
  let record ← Record.ofObject? json
  pure {
    annotations := ← record.nullable "annotations" (Source.dict? Source.text?)
    creationTimestamp := ← record.nullable "creationTimestamp" Timestamp.ofJson?
    deletionGracePeriodSeconds := ← record.nullable "deletionGracePeriodSeconds" (Source.signed? 64)
    deletionTimestamp := ← record.nullable "deletionTimestamp" Timestamp.ofJson?
    finalizers := ← record.nullable "finalizers" (Source.list? Source.text?)
    generateName := ← record.nullable "generateName" Source.text?
    generation := ← record.nullable "generation" (Source.signed? 64)
    labels := ← record.nullable "labels" (Source.dict? Source.text?)
    managedFields := ← record.nullable "managedFields" (Source.list? FieldOwnership.ofJson?)
    name := ← record.nullable "name" Source.text?
    ns := ← record.nullable "namespace" Source.text?
    ownerReferences := ← record.nullable "ownerReferences" (Source.list? OwnerReference.ofJson?)
    resourceVersion := ← record.nullable "resourceVersion" Source.text?
    selfLink := ← record.nullable "selfLink" Source.text?
    uid := ← record.nullable "uid" Source.text? }

/-- Writes metadata. -/
def toJson (m : Metadata) : Json :=
  .object <| Json.optional "annotations" (m.annotations.map .ofTexts) ++
    Json.optional "creationTimestamp" (m.creationTimestamp.map Timestamp.toJson) ++
    Json.optional "deletionGracePeriodSeconds" (m.deletionGracePeriodSeconds.map .int) ++
    Json.optional "deletionTimestamp" (m.deletionTimestamp.map Timestamp.toJson) ++
    Json.optional "finalizers" (m.finalizers.map fun texts => .arr (texts.map .str)) ++
    Json.optional "generateName" (m.generateName.map .str) ++
    Json.optional "generation" (m.generation.map .int) ++
    Json.optional "labels" (m.labels.map .ofTexts) ++
    Json.optional "managedFields" (m.managedFields.map fun fs => .arr (fs.map (·.toJson))) ++
    Json.optional "name" (m.name.map .str) ++
    Json.optional "namespace" (m.ns.map .str) ++
    Json.optional "ownerReferences" (m.ownerReferences.map fun rs => .arr (rs.map (·.toJson))) ++
    Json.optional "resourceVersion" (m.resourceVersion.map .str) ++
    Json.optional "selfLink" (m.selfLink.map .str) ++
    Json.optional "uid" (m.uid.map .str)

/-- The metadata of a copy that is loaded into a namespace: name, labels and annotations survive,
what the cluster filled in does not. -/
def reloaded (m : Metadata) (ns : String) : Metadata :=
  { name := m.name, ns := some ns, labels := m.labels, annotations := m.annotations }

end Metadata

end NamespaceBackup
