import NamespaceBackup.Object.Metadata
import NamespaceBackup.Text.Base64

/-!
# Config maps and secrets

The two typed kinds of the cluster that a backup carries. Their fields are known, all others are
dropped when they are read. Binary values are written in base 64.

## Main definitions

* `ConfigMap`, `Secret`: the two kinds
* `ConfigMap.ofJson?`, `ConfigMap.toJson`, `Secret.ofJson?`, `Secret.toJson`: reading and writing
* `ConfigMap.reloaded`, `Secret.reloaded`: the copy that is loaded into a namespace
-/

namespace NamespaceBackup

/-- Texts and bytes by name. -/
structure ConfigMap where
  metadata : Metadata := {}
  data : Option (Dict String) := none
  binaryData : Option (Dict (List UInt8)) := none
  immutable : Option Bool := none
deriving DecidableEq, Inhabited

/-- Bytes by name that are kept secret. -/
structure Secret where
  metadata : Metadata := {}
  data : Option (Dict (List UInt8)) := none
  stringData : Option (Dict String) := none
  immutable : Option Bool := none
  /-- What the secret is for. -/
  secretType : Option String := none
deriving DecidableEq, Inhabited

/-- Bytes; `null` stands for none. -/
def Source.bytes? {σ : Type} [Json.Source σ] (source : σ) : Option (List UInt8) :=
  if Source.isNull source then some [] else (Source.text? source).bind Base64.decode

/-- Writes bytes by name. -/
def Json.ofBytes (dict : Dict (List UInt8)) : Json :=
  .ofDict (dict.map fun bytes => .str (Base64.encode bytes))

namespace ConfigMap

/-- The name the config map goes by. -/
def anyName (m : ConfigMap) : String := m.metadata.anyName

/-- The copy that is loaded into a namespace. -/
def reloaded (m : ConfigMap) (ns : String) : ConfigMap :=
  { m with metadata := m.metadata.reloaded ns }

/-- Reads a config map. -/
def ofJson? {σ : Type} [Json.Source σ] (json : σ) : Option ConfigMap := do
  let record ← Record.ofObject? json
  record.fixed "apiVersion" "v1"
  record.fixed "kind" "ConfigMap"
  pure {
    metadata := (← record.nullable "metadata" Metadata.ofJson?).getD {}
    data := ← record.nullable "data" (Source.dict? Source.text?)
    binaryData := ← record.nullable "binaryData" (Source.dict? Source.bytes?)
    immutable := ← record.nullable "immutable" Source.truth? }

/-- Writes a config map. -/
def toJson (m : ConfigMap) : Json :=
  .object <| [("apiVersion", .str "v1"), ("kind", .str "ConfigMap"),
      ("metadata", m.metadata.toJson)] ++
    Json.optional "data" (m.data.map .ofTexts) ++
    Json.optional "binaryData" (m.binaryData.map .ofBytes) ++
    Json.optional "immutable" (m.immutable.map .bool)

end ConfigMap

namespace Secret

/-- The name the secret goes by. -/
def anyName (s : Secret) : String := s.metadata.anyName

/-- The copy that is loaded into a namespace. -/
def reloaded (s : Secret) (ns : String) : Secret := { s with metadata := s.metadata.reloaded ns }

/-- Reads a secret. -/
def ofJson? {σ : Type} [Json.Source σ] (json : σ) : Option Secret := do
  let record ← Record.ofObject? json
  record.fixed "apiVersion" "v1"
  record.fixed "kind" "Secret"
  pure {
    metadata := (← record.nullable "metadata" Metadata.ofJson?).getD {}
    data := ← record.nullable "data" (Source.dict? Source.bytes?)
    stringData := ← record.nullable "stringData" (Source.dict? Source.text?)
    immutable := ← record.nullable "immutable" Source.truth?
    secretType := ← record.nullable "type" Source.text? }

/-- Writes a secret. -/
def toJson (s : Secret) : Json :=
  .object <| [("apiVersion", .str "v1"), ("kind", .str "Secret"),
      ("metadata", s.metadata.toJson)] ++
    Json.optional "data" (s.data.map .ofBytes) ++
    Json.optional "stringData" (s.stringData.map .ofTexts) ++
    Json.optional "immutable" (s.immutable.map .bool) ++
    Json.optional "type" (s.secretType.map .str)

end Secret

end NamespaceBackup
