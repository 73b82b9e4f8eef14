import NamespaceBackup.Bundle
import NamespaceBackup.Kind
import NamespaceBackup.Marker
import NamespaceBackup.Text.Form

/-!
# Addresses of objects

Where the API server serves lists and objects, and the parameters that follow the address.

## Main definitions

* `Rest.listUri`, `Rest.objectUri`: the address of a list and of an object
* `Rest.withParameters`: an address with parameters
* `Rest.sentUri`: the part of an address that is sent
-/

namespace NamespaceBackup

namespace ApiResource

/-- The kind of config maps in the core group. -/
def configMaps : ApiResource := ⟨"", "v1", "ConfigMap", "configmaps"⟩

/-- The kind of secrets in the core group. -/
def secrets : ApiResource := ⟨"", "v1", "Secret", "secrets"⟩

/-- The kind of pods in the core group. -/
def pods : ApiResource := ⟨"", "v1", "Pod", "pods"⟩

/-- The kind of bundles. -/
def bundles : ApiResource := ⟨apiGroup, NamespaceBackup.apiVersion, Bundle.kindName, "backups"⟩

/-- The kind of requests. -/
def requests : ApiResource :=
  ⟨apiGroup, NamespaceBackup.apiVersion, Request.kindName, "backuprequests"⟩

end ApiResource

namespace Rest

/-- The address that a group is served at. -/
def groupUri (resource : ApiResource) : String :=
  (if resource.group = "" then "/api/" else "/apis/") ++ resource.apiVersion

/-- The address of the objects of a kind: of one namespace, or of all. -/
def listUri (ns : Option String) (resource : ApiResource) : String :=
  match ns with
  | some ns => groupUri resource ++ "/namespaces/" ++ ns ++ "/" ++ resource.plural
  | none => groupUri resource ++ "/" ++ resource.plural

/-- The address of an object. -/
def objectUri (ns : String) (resource : ApiResource) (name : String) : String :=
  listUri (some ns) resource ++ "/" ++ name

/-- One parameter. -/
def parameter (name value : String) : String := "&" ++ name ++ "=" ++ Form.encode value

/-- An address with parameters. -/
def withParameters (uri : String) (parameters : List (String × String)) : String :=
  uri ++ "?" ++ String.join (parameters.map fun (name, value) => parameter name value)

/-- Why an address cannot be sent. -/
inductive UriFault where
  | tooLong
  | character
deriving DecidableEq, Repr

/-- The wording of what is wrong with an address. -/
def UriFault.message : UriFault → String
  | tooLong => "uri too long"
  | character => "invalid uri character"

/-- The greatest number of bytes of an address. -/
def maxUriSize : Nat := 65534

/-- Whether a character may stand in front of the parameters: no blank, no control character, and
none of `#`, `<`, `>`, `?` and the grave accent. -/
def isPathChar (c : Char) : Bool :=
  0x20 < c.toNat && c.toNat ≠ 0x7F && !"#<>?\x60".toList.contains c

/-- Whether a character may stand in the parameters: there the quotation mark may not stand, but a
question mark and a grave accent may. -/
def isQueryChar (c : Char) : Bool :=
  0x20 < c.toNat && c.toNat ≠ 0x7F && !"\"#<>".toList.contains c

/-- The address that is sent: it ends in front of the first `#`. -/
def sentUri (uri : String) : Except UriFault String :=
  let cs := uri.toList.takeWhile (· ≠ '#')
  let query := (cs.dropWhile (· ≠ '?')).drop 1
  if maxUriSize < uri.utf8ByteSize then .error .tooLong
  else if (cs.takeWhile (· ≠ '?')).all isPathChar && query.all isQueryChar then
    .ok (String.ofList cs)
  else .error .character

end Rest

end NamespaceBackup
