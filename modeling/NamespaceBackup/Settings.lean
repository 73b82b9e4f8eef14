import NamespaceBackup.Json.Record

/-!
# Settings

Every label key, selector and name that a backup depends on.

## Main definitions

* `Settings`: the settings, with their defaults
* `Settings.markerSelector`: the selector of what belongs to one request
* `Settings.ofJson?`, `Settings.toJson`: reading and writing
-/

namespace NamespaceBackup

/-- The API group of the director's kinds, the request and the bundle. -/
def apiGroup : String := "director.infra.io"

/-- The settings of a backup. -/
structure Settings where
  /-- The name under which patches are sent. -/
  fieldManager : String := "director-backup-operator"
  /-- Seconds until an unfinished request is looked at again; fits into 64 bits. -/
  requeueSeconds : Nat := 10
  /-- The label that carries the marker of a request. -/
  markerLabel : String := apiGroup ++ "/backup-snapshot"
  /-- The label that names the request an object belongs to. -/
  requestLabel : String := apiGroup ++ "/backup-request"
  /-- The selector of config maps and secrets that are saved. -/
  managedSelector : String := "app.kubernetes.io/managed-by=director-operator"
  /-- The selector of the pod that commands run in. -/
  adminPodSelector : String := "app.kubernetes.io/component=admin-client"
  /-- The container of that pod. -/
  adminContainer : String := "admin-client"
  /-- The user that commands log in as. -/
  adminUser : String := "cloud-admin"
  /-- The network on which a machine is reached. -/
  haNetwork : String := "ctlplane"
deriving DecidableEq, Inhabited

namespace Settings

/-- The names of the fields, in order. -/
def fieldNames : List String :=
  ["fieldManager", "requeueSeconds", "markerLabel", "requestLabel", "managedSelector",
    "adminPodSelector", "adminContainer", "adminUser", "haNetwork"]

/-- The selector of every marker and of the bundle of one request. -/
def markerSelector (settings : Settings) (marker : String) : String :=
  settings.markerLabel ++ "=" ++ marker

/-- Reads settings; what is not given has its default. -/
def ofJson? {σ : Type} [Json.Source σ] (json : σ) : Option Settings := do
  let record ← Record.ofObjectOrArray? fieldNames 0 json
  let default : Settings := {}
  let text (name default : String) : Option String := record.withDefault name default Source.text?
  pure {
    fieldManager := ← text "fieldManager" default.fieldManager
    requeueSeconds :=
      ← record.withDefault "requeueSeconds" default.requeueSeconds (Source.unsigned? 64)
    markerLabel := ← text "markerLabel" default.markerLabel
    requestLabel := ← text "requestLabel" default.requestLabel
    managedSelector := ← text "managedSelector" default.managedSelector
    adminPodSelector := ← text "adminPodSelector" default.adminPodSelector
    adminContainer := ← text "adminContainer" default.adminContainer
    adminUser := ← text "adminUser" default.adminUser
    haNetwork := ← text "haNetwork" default.haNetwork }

/-- Writes settings. -/
def toJson (settings : Settings) : Json :=
  .object [("fieldManager", .str settings.fieldManager),
    ("requeueSeconds", .int settings.requeueSeconds),
    ("markerLabel", .str settings.markerLabel),
    ("requestLabel", .str settings.requestLabel),
    ("managedSelector", .str settings.managedSelector),
    ("adminPodSelector", .str settings.adminPodSelector),
    ("adminContainer", .str settings.adminContainer),
    ("adminUser", .str settings.adminUser),
    ("haNetwork", .str settings.haNetwork)]

end Settings

end NamespaceBackup
