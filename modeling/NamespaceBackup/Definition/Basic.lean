import NamespaceBackup.Definition.Schema
import NamespaceBackup.Rest.Uri

/-!
# Definitions of the custom resources

How requests and bundles are made known to the API server: their names, the columns of a listing,
and the schema of their fields.

## Main definitions

* `Definition`: a custom resource
* `Definition.bundle`, `Definition.request`: the two custom resources
* `Definition.toJson`: the object that makes one known
-/

namespace NamespaceBackup

/-- A column of a listing. -/
structure Column where
  name : String
  columnType : String
  /-- Where the value of the column is. -/
  path : String

/-- A custom resource. -/
structure Definition where
  resource : ApiResource
  singular : String
  shortNames : List String := []
  columns : List Column
  schema : Schema
  /-- Whether the status is written apart from the rest. -/
  hasStatus : Bool

namespace Definition

/-- The column that shows the age of an object. -/
def ageColumn : Column := ⟨"Age", "date", ".metadata.creationTimestamp"⟩

/-- The schema of an object of a kind. -/
def objectSchema (kind : String) (fields : List (String × Schema)) : Schema :=
  .noted "title" (.str kind) <|
    Schema.described ("Auto-generated derived type for " ++ kind ++ "Spec via \x60CustomResource\x60")
      (.record fields ["spec"])

/-- The schema of a list that is wrapped as the field `items`. -/
def itemsSchema : Schema := .record [("items", .withDefault (.arr []) (.list .free))] []

/-- The value of a wrapped list without items. -/
def noItems : Json := .object [("items", .arr [])]

/-- The schema of the content of a bundle. -/
def contentSchema : Schema :=
  .described "Spec for a Backup resource" <| .record
    [("crs", .described "Managed resources keyed by kind" <| .withDefault (.obj []) <| .dict <|
        .described "Saved objects of one managed kind." itemsSchema),
      ("configMaps", .described "Config maps matching the managed selector" <|
        .withDefault noItems itemsSchema),
      ("secrets", .described "Secrets matching the managed selector" <|
        .withDefault noItems itemsSchema),
      ("vmSnapshotNames",
        .described "VM name to snapshot name, present when VM images were included" <|
          .withDefault (.obj []) (.dict .text))] []

/-- Bundles. -/
def bundle : Definition :=
  { resource := .bundles
    singular := "backup"
    columns := [ageColumn]
    schema := objectSchema Bundle.kindName [("spec", contentSchema)]
    hasStatus := false }

/-- The schema of what a request asks for. -/
def specSchema : Schema :=
  .described "Spec for a BackupRequest resource" <| .record
    [("mode", .described "Whether to save a new bundle or restore an existing one" <|
        .withDefault (.str Mode.save.name) (.choice (Mode.all.map Mode.name))),
      ("includeVMImages", .described
        "Snapshot (save) or restore (restore modes) the disks of every VM-set member" <|
        .withDefault (.bool false) .flag),
      ("restoreSource", .described
        "Name of the Backup bundle to restore from (restore modes only)" (.nullable .text))] []

/-- The schema of a condition. -/
def conditionSchema : Schema :=
  .described "A single status condition." <| .record
    [("type", .described "Condition type; for backup requests this is the state name" .text),
      ("status", .described "\"True\" or \"False\"" .text),
      ("reason", .nullable .text), ("message", .nullable .text),
      ("lastHeartbeatTime", .nullable .text), ("lastTransitionTime", .nullable .text)]
    ["status", "type"]

/-- The schema of a request's status. The state of a new request is listed last. -/
def statusSchema : Schema :=
  .nullable <| .described "Status of a BackupRequest resource" <| .record
    [("currentState", .described "Current saga state" <|
        .withDefault (.str State.empty.name) <|
          .choice ((State.all.filter (· ≠ State.empty) ++ [State.empty]).map State.name)),
      ("vmSnapshotNames", .described
        "VM name to the snapshot name that was saved or restored for it" <|
          .withDefault (.obj []) (.dict .text)),
      ("completionTimestamp", .described "When the request reached Saved or Restored"
        (.nullable .text)),
      ("conditions", .described
        "Conditions; exactly one is \"True\" once the request has started" <|
          .withDefault (.arr []) (.list conditionSchema))] []

/-- Requests. -/
def request : Definition :=
  { resource := .requests
    singular := "backuprequest"
    shortNames := ["backupreq"]
    columns :=
      [⟨"Mode", "string", ".spec.mode"⟩, ⟨"Restore Source", "string", ".spec.restoreSource"⟩,
        ⟨"State", "string", ".status.currentState"⟩,
        ⟨"Completed", "date", ".status.completionTimestamp"⟩, ageColumn]
    schema := objectSchema Request.kindName [("spec", specSchema), ("status", statusSchema)]
    hasStatus := true }

/-- A column as an object. -/
def columnJson (column : Column) : Json :=
  .object [("name", .str column.name), ("type", .str column.columnType),
    ("jsonPath", .str column.path)]

/-- The object that makes a custom resource known. -/
def toJson (definition : Definition) : Json :=
  let resource := definition.resource
  let version := Json.object [
    ("name", .str resource.version), ("served", .bool true), ("storage", .bool true),
    ("additionalPrinterColumns", .arr (definition.columns.map columnJson)),
    ("schema", .object [("openAPIV3Schema", definition.schema.toJson)]),
    ("subresources", if definition.hasStatus then .object [("status", .obj [])] else .obj [])]
  .object [
    ("apiVersion", .str "apiextensions.k8s.io/v1"),
    ("kind", .str "CustomResourceDefinition"),
    ("metadata", .object [("name", .str (resource.plural ++ "." ++ resource.group))]),
    ("spec", .object [
      ("group", .str resource.group),
      ("names", .object [
        ("categories", .arr []), ("kind", .str resource.kind), ("plural", .str resource.plural),
        ("shortNames", .arr (definition.shortNames.map .str)),
        ("singular", .str definition.singular)]),
      ("scope", .str "Namespaced"),
      ("versions", .arr [version])])]

end Definition

end NamespaceBackup
