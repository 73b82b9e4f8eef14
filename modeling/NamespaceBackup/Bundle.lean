import NamespaceBackup.Object.ConfigMap
import NamespaceBackup.Object.Resource
import NamespaceBackup.Request.Codec

/-!
# Bundles

A bundle is a saved namespace: every managed object by kind, config maps, secrets, and the
snapshots of the machines if their images were included.

## Main definitions

* `Bundle.Content`: what is saved
* `Bundle`: the saved content as an object of the cluster
* `Bundle.Content.objects`: the saved objects of one kind
* `Bundle.ofJson?`, `Bundle.toJson`: reading and writing
-/

namespace NamespaceBackup

namespace Bundle

/-- A saved namespace. -/
structure Content where
  /-- The managed objects, by the name of their kind. -/
  resources : Dict (List Resource) := .empty
  configMaps : List ConfigMap := []
  secrets : List Secret := []
  /-- The snapshots of the machines, by machine. -/
  snapshotNames : Dict String := .empty
deriving DecidableEq, Inhabited

end Bundle

/-- A bundle as the cluster stores it. -/
structure Bundle where
  metadata : Metadata := {}
  content : Bundle.Content := {}
deriving DecidableEq, Inhabited

namespace Bundle

/-- The name the bundle goes by. -/
def anyName (bundle : Bundle) : String := bundle.metadata.anyName

namespace Content

/-- The objects saved of one kind. -/
def objects (content : Content) (kind : String) : List Resource :=
  (content.resources.find? kind).getD []

/-- Reads a list that is wrapped as the field `items` of a record. -/
def items? {σ α : Type} [Json.Source σ] (read : σ → Option α) (json : σ) : Option (List α) := do
  let record ← Record.ofObjectOrArray? ["items"] 0 json
  record.withDefault "items" [] (Source.list? read)

/-- Wraps a list as the field `items` of a record. -/
def ofItems (items : List Json) : Json := .object [("items", .arr items)]

/-- The names of the fields, in order. -/
def fieldNames : List String := ["crs", "configMaps", "secrets", "vmSnapshotNames"]

/-- Reads a saved namespace; what is not given is empty. -/
def ofJson? {σ : Type} [Json.Source σ] (json : σ) : Option Content := do
  let record ← Record.ofObjectOrArray? fieldNames 0 json
  pure {
    resources := ← record.withDefault "crs" .empty (Source.dict? (items? Resource.ofJson?))
    configMaps := ← record.withDefault "configMaps" [] (items? ConfigMap.ofJson?)
    secrets := ← record.withDefault "secrets" [] (items? Secret.ofJson?)
    snapshotNames := ← record.withDefault "vmSnapshotNames" .empty (Source.dict? Source.text?) }

/-- Writes a saved namespace. -/
def toJson (content : Content) : Json :=
  .object [
    ("crs", .ofDict (content.resources.map fun rs => ofItems (rs.map (·.toJson)))),
    ("configMaps", ofItems (content.configMaps.map (·.toJson))),
    ("secrets", ofItems (content.secrets.map (·.toJson))),
    ("vmSnapshotNames", .ofTexts content.snapshotNames)]

end Content

/-- The kind of a bundle. -/
def kindName : String := "Backup"

/-- The names of the fields that are read, in order. -/
def fieldNames : List String := ["metadata", "spec"]

/-- Reads a bundle. -/
def ofJson? {σ : Type} [Json.Source σ] (json : σ) : Option Bundle := do
  let record ← Record.ofObjectOrArray? fieldNames 2 json
  pure {
    metadata := ← record.required "metadata" Metadata.ofJson?
    content := ← record.required "spec" Content.ofJson? }

/-- Writes a bundle. -/
def toJson (bundle : Bundle) : Json :=
  .object [("apiVersion", .str apiGroupVersion), ("kind", .str kindName),
    ("metadata", bundle.metadata.toJson), ("spec", bundle.content.toJson)]

end Bundle

end NamespaceBackup
