import NamespaceBackup.Request.Basic
import NamespaceBackup.Settings

/-!
# The written form of requests

Requests are stored as JSON. Type and version are the same for all requests, so they are written
always and ignored on reading; a status that is absent is left out, all other fields are written.

## Main definitions

* `Request.ofJson?`, `Request.toJson`: reading and writing a request
* `Request.Spec.ofJson?`, `Request.Status.ofJson?` and their writers: its two parts
-/

namespace NamespaceBackup

/-- The version of the director's API. -/
def apiVersion : String := "v1beta1"

/-- The API group of the director's kinds together with its version. -/
def apiGroupVersion : String := apiGroup ++ "/" ++ apiVersion

namespace Request

namespace Spec

/-- The names of the fields, in order. -/
def fieldNames : List String := ["mode", "includeVMImages", "restoreSource"]

/-- Reads what is asked for. -/
def ofJson? {σ : Type} [Json.Source σ] (json : σ) : Option Spec := do
  let record ← Record.ofObjectOrArray? fieldNames 0 json
  pure {
    mode := ← record.withDefault "mode" .save (Source.choice? Mode.ofName?)
    includeImages := ← record.withDefault "includeVMImages" false Source.truth?
    restoreSource := ← record.nullable "restoreSource" Source.text? }

/-- Writes what is asked for. -/
def toJson (spec : Spec) : Json :=
  .object [("mode", .str spec.mode.name), ("includeVMImages", .bool spec.includeImages),
    ("restoreSource", Json.orNull (spec.restoreSource.map .str))]

end Spec

namespace Status

/-- The names of the fields, in order. -/
def fieldNames : List String :=
  ["currentState", "vmSnapshotNames", "completionTimestamp", "conditions"]

/-- Reads a status. -/
def ofJson? {σ : Type} [Json.Source σ] (json : σ) : Option Status := do
  let record ← Record.ofObjectOrArray? fieldNames 0 json
  pure {
    state := ← record.withDefault "currentState" .empty (Source.choice? State.ofName?)
    snapshotNames := ← record.withDefault "vmSnapshotNames" .empty (Source.dict? Source.text?)
    completionTimestamp := ← record.nullable "completionTimestamp" Source.text?
    conditions := ← record.withDefault "conditions" [] (Source.list? Condition.ofJson?) }

/-- Writes a status. -/
def toJson (status : Status) : Json :=
  .object [("currentState", .str status.state.name),
    ("vmSnapshotNames", .ofTexts status.snapshotNames),
    ("completionTimestamp", Json.orNull (status.completionTimestamp.map .str)),
    ("conditions", .arr (status.conditions.map (·.toJson)))]

end Status

/-- The kind of a request. -/
def kindName : String := "BackupRequest"

/-- The names of the fields that are read, in order. -/
def fieldNames : List String := ["metadata", "spec", "status"]

/-- Reads a request. -/
def ofJson? {σ : Type} [Json.Source σ] (json : σ) : Option Request := do
  let record ← Record.ofObjectOrArray? fieldNames 3 json
  pure {
    metadata := ← record.required "metadata" Metadata.ofJson?
    spec := ← record.required "spec" Spec.ofJson?
    status := ← record.nullable "status" Status.ofJson? }

/-- Writes a request. -/
def toJson (request : Request) : Json :=
  .object <| [("apiVersion", .str apiGroupVersion), ("kind", .str kindName),
      ("metadata", request.metadata.toJson), ("spec", request.spec.toJson)] ++
    Json.optional "status" (request.status.map (·.toJson))

end Request

end NamespaceBackup
