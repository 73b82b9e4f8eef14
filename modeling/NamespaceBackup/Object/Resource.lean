import NamespaceBackup.Object.Metadata

/-!
# Resources

An object of any kind: its type, its metadata, and all other top-level fields as they are.

## Main definitions

* `Resource`: an object of any kind
* `Resource.at?`: the value at a path of field names
* `Resource.patched`: the object after a merge patch
* `Resource.reloaded`: the copy of a saved object that is loaded into a namespace
* `Resource.ofJson?`, `Resource.toJson`: reading and writing
-/

namespace NamespaceBackup

/-- What kind of object this is, in which version of which API. -/
structure TypeMeta where
  apiVersion : String
  kind : String
deriving DecidableEq, Repr

namespace TypeMeta

/-- Takes version and kind, in front of which some may have been taken, out of a list of fields.
They count only together. The first one that repeats or is no text ends the search; it is dropped,
and the fields behind it are left as they are. -/
def take (apiVersion kind : Option String) :
    List (String × Json) → Option TypeMeta × List (String × Json)
  | [] => (do pure ⟨← apiVersion, ← kind⟩, [])
  | (name, value) :: rest =>
    if name = "apiVersion" then
      match apiVersion, value with
      | none, .str text => take (some text) kind rest
      | _, _ => (none, rest)
    else if name = "kind" then
      match kind, value with
      | none, .str text => take apiVersion (some text) rest
      | _, _ => (none, rest)
    else
      let (types, others) := take apiVersion kind rest
      (types, (name, value) :: others)

end TypeMeta

/-- An object of any kind. -/
structure Resource where
  /-- Its type, if it says so. -/
  types : Option TypeMeta := none
  /-- Its metadata. -/
  metadata : Metadata := {}
  /-- All other top-level fields. -/
  fields : Dict Json := .empty
deriving DecidableEq, Inhabited

namespace Resource

/-- The name the object goes by. -/
def anyName (r : Resource) : String := r.metadata.anyName

/-- The value at a path of field names. -/
def at? (r : Resource) (path : List String) : Option Json := (Json.ofDict r.fields).at? path

/-- The object with another value of one top-level field. -/
def withField (r : Resource) (name : String) (value : Json) : Resource :=
  { r with fields := r.fields.insert name value }

/-- The object after a merge patch on its fields; type and metadata stay as they are. -/
def patched (r : Resource) (patch : Json) : Resource :=
  { r with fields := Dict.ofList (Json.merge (.ofDict r.fields) patch).fields }

/-- The copy of a saved object that is loaded into a namespace: every top-level field but its
status, and the metadata that survives. -/
def reloaded (r : Resource) (ns : String) : Resource :=
  { types := r.types, metadata := r.metadata.reloaded ns, fields := r.fields.erase "status" }

/-- Reads an object. -/
def ofJson? {σ : Type} [Json.Source σ] (json : σ) : Option Resource := do
  let (record, others) ← Record.ofOpenObject? ["metadata"] json
  let metadata ← record.withDefault "metadata" {} Metadata.ofJson?
  let (types, others) := TypeMeta.take none none others
  pure { types, metadata, fields := Dict.ofList others }

/-- Writes an object. -/
def toJson (r : Resource) : Json :=
  let types := match r.types with
    | some t => [("apiVersion", .str t.apiVersion), ("kind", .str t.kind)]
    | none => []
  .object (types ++ [("metadata", r.metadata.toJson)] ++ r.fields.entries)

end Resource

end NamespaceBackup
