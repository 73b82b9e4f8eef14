import NamespaceBackup.Object.Pod
import NamespaceBackup.Rest.ApiError
import NamespaceBackup.Rest.Command
import NamespaceBackup.Rest.Uri
import NamespaceBackup.Settings

/-!
# The API over HTTP

How each call of a backup is made of requests to the API server.

## Main definitions

* `Remote`: a dialogue with an API server that may fail
* `Rest.createOrReplace`: applies an object
* `Rest.runCommand`: runs a command in the administrative pod
* `Rest.perform`: the requests of a call
* `Rest.settle`: the requests behind a question of a pass
-/

namespace NamespaceBackup

/-- A dialogue with an API server that may fail. -/
abbrev Remote : Type → Type := ExceptT Failure (Dialogue Rest.Question Rest.Question.Answer)

namespace Rest

variable {α : Type}

/-! ## One request -/

/-- The failure of a request that cannot be made. -/
def unbuildable (reason : String) : Failure := .api ("Failed to build request: " ++ reason)

/-- A request with the part of its address that is sent. -/
def sendable (request : Request) : Except Failure Request :=
  match sentUri request.uri with
  | .ok uri => .ok { request with uri }
  | .error fault => .error (unbuildable ("failed to build request: " ++ fault.message))

/-- Asks for the reply to a request. -/
def ask (request : Request) : Remote Reply :=
  (.ask (Question.send request) fun (reply : Reply) => .finish (.ok reply) :
    Dialogue Question Question.Answer (Except Failure Reply))

/-- Sends a request, if its address can be sent. -/
def send (request : Request) : Remote Reply := do
  ask (← ofExcept (sendable request))

/-- Sends a request and gives the text of the reply, or the error that it tells of. -/
def exchange (request : Request) : Remote (Except ApiError String) := do
  match ← send request with
  | .broken detail => throw (.api ("ServiceError: " ++ detail))
  -- A reply that opens a connection has no text.
  | .upgraded _ => return .ok ""
  | .response code text => return if isError code then .error (.ofReply code text) else .ok text

/-- The failure of a reply that is not what was asked for. -/
def undecodable : Failure := .api "Error deserializing response"

/-- How a reply is read. -/
abbrev Reader (α : Type) : Type := Json.Document → Option α

/-- Reads the text of a reply. -/
def decode (read : Reader α) (text : String) : Except Failure α :=
  match (Json.Document.parse text).bind read with
  | some value => .ok value
  | none => .error undecodable

/-- Sends a request and reads the reply. -/
def fetch (request : Request) (read : Reader α) : Remote α := do
  match ← exchange request with
  | .error error => throw error.failure
  | .ok text => ofExcept (decode read text)

/-- The failure of a request that is not allowed. -/
def invalid (reason : String) : Failure := unbuildable ("failed to validate request: " ++ reason)

/-- Refuses an empty name. -/
def requireName (name : String) : Except Failure Unit :=
  if name = "" then .error (invalid "A non-empty name is required") else .ok ()

/-- The greatest number of bytes of the name under which patches are sent. -/
def maxManagerSize : Nat := 128

/-- Refuses too long a name under which patches are sent. -/
def requireManager (manager : String) : Except Failure Unit :=
  if maxManagerSize < manager.utf8ByteSize then
    .error (invalid "Failed to validate PatchParams::field_manager!")
  else .ok ()

/-- The type of a body that is the object itself. -/
def plainJson : String := "application/json"

/-- The type of a body that is a merge patch. -/
def mergePatchJson : String := "application/merge-patch+json"

/-! ## Verbs -/

/-- Reads a list of objects; `null` stands for an empty one. -/
def readList {σ : Type} [Json.Source σ] (read : σ → Option α) (json : σ) : Option (List α) := do
  let (record, _) ← Record.ofOpenObject? ["metadata", "items"] json
  record.withDefault "metadata" () (Shape.check listMetadata)
  record.required "items" fun items =>
    if Source.isNull items then some [] else Source.list? read items

/-- The objects of a kind in a namespace: all, or those that a selector selects. -/
def list (ns : String) (resource : ApiResource) (selector : Option String)
    (read : Reader α) : Remote (List α) :=
  let parameters := match selector with
    | some selector => [("labelSelector", selector)]
    | none => []
  fetch ⟨.get, withParameters (listUri (some ns) resource) parameters, none⟩ (readList read)

/-- An object, if it exists. -/
def get? (ns : String) (resource : ApiResource) (name : String) (read : Reader α) :
    Remote (Option α) := do
  ofExcept (requireName name)
  match ← exchange ⟨.get, objectUri ns resource name, none⟩ with
  | .error error => if error.isAbsence then return none else throw error.failure
  | .ok text => return some (← ofExcept (decode read text))

/-- Creates an object. -/
def create (ns : String) (resource : ApiResource) (object : Json) (read : Reader α) :
    Remote Unit := do
  let uri := withParameters (listUri (some ns) resource) []
  let _ ← fetch ⟨.post, uri, some ⟨plainJson, object⟩⟩ read

/-- Puts an object in the place of another. -/
def replace (ns : String) (resource : ApiResource) (name : String) (object : Json)
    (read : Reader α) : Remote Unit := do
  ofExcept (requireName name)
  let uri := withParameters (objectUri ns resource name) []
  let _ ← fetch ⟨.put, uri, some ⟨plainJson, object⟩⟩ read

/-- Merges a patch into an object, or into its status. -/
def patch (settings : Settings) (ns : String) (resource : ApiResource) (name : String)
    (onStatus : Bool) (content : Json) (read : Reader α) : Remote α := do
  ofExcept (requireName name)
  ofExcept (requireManager settings.fieldManager)
  let uri := objectUri ns resource name ++ (if onStatus then "/status" else "")
  fetch ⟨.patch, withParameters uri [("fieldManager", settings.fieldManager)],
    some ⟨mergePatchJson, content⟩⟩ read

section Deletion

variable {σ : Type} [Json.Source σ]

/-- Reads one of the words for how a deletion ended. -/
def readSummary (json : σ) : Option Unit :=
  Source.choice? (fun name => if name = "Success" ∨ name = "Failure" then some () else none) json

/-- Reads a cause of a deletion's end. -/
def readDeletionCause (json : σ) : Option Unit := do
  let names := ["reason", "message", "field"]
  let record ← Record.ofObjectOrArray? names 0 json
  names.forM fun name => discard (record.withDefault name "" Source.text?)

/-- Reads the details of a deletion's end. -/
def readDeletionDetails (json : σ) : Option Unit := do
  let names := ["name", "group", "kind", "uid"]
  let record ← Record.ofObjectOrArray? (names ++ ["causes", "retryAfterSeconds"]) 0 json
  names.forM fun name => discard (record.withDefault name "" Source.text?)
  let _ ← record.withDefault "causes" [] (Source.list? readDeletionCause)
  let _ ← record.withDefault "retryAfterSeconds" 0 (Source.unsigned? 32)

/-- Reads how a deletion ended. -/
def readDeletionStatus (json : σ) : Option Unit := do
  let record ← Record.ofObjectOrArray? ["status", "code", "message", "reason", "details"] 0 json
  let _ ← record.nullable "status" readSummary
  let _ ← record.withDefault "code" 0 (Source.unsigned? 16)
  let _ ← record.withDefault "message" "" Source.text?
  let _ ← record.withDefault "reason" "" Source.text?
  let _ ← record.nullable "details" readDeletionDetails

/-- Reads the reply to a deletion: a status, or the object as it is while it is being deleted. To
tell them apart, all of the reply must stand for a value. -/
def readDeletion (read : σ → Option α) (json : σ) : Option Unit := do
  let value ← Json.Source.value? json
  if value.field? "kind" = some (.str "Status") then readDeletionStatus json
  else discard (read json)

end Deletion

/-- Deletes an object. -/
def delete (ns : String) (resource : ApiResource) (name : String) (read : Reader α) :
    Remote Unit := do
  ofExcept (requireName name)
  let uri := withParameters (objectUri ns resource name) []
  fetch ⟨.delete, uri, some ⟨plainJson, .obj []⟩⟩ (readDeletion read)

/-! ## Applying an object -/

/-- How objects of a type are read and written, and where their metadata is. -/
structure Codec (α : Type) where
  read : Reader α
  write : α → Json
  metadata : α → Metadata
  withMetadata : α → Metadata → α

/-- Objects of any kind. -/
def Codec.resource : Codec Resource :=
  ⟨Resource.ofJson?, Resource.toJson, (·.metadata), fun r m => { r with metadata := m }⟩

/-- Config maps. -/
def Codec.configMap : Codec ConfigMap :=
  ⟨ConfigMap.ofJson?, ConfigMap.toJson, (·.metadata), fun c m => { c with metadata := m }⟩

/-- Secrets. -/
def Codec.secret : Codec Secret :=
  ⟨Secret.ofJson?, Secret.toJson, (·.metadata), fun s m => { s with metadata := m }⟩

/-- An object with the version of the one that it replaces. -/
def Codec.versioned (codec : Codec α) (object existing : α) : α :=
  codec.withMetadata object
    { codec.metadata object with resourceVersion := (codec.metadata existing).resourceVersion }

/-- Creates an object, or replaces the one of its name if that is still as it was read. -/
def createOrReplace (codec : Codec α) (ns : String) (resource : ApiResource) (object : α) :
    Remote Unit := do
  match (codec.metadata object).name with
  | none => throw (.invalidState "object to apply has no name")
  | some name =>
    match ← get? ns resource name codec.read with
    | some existing =>
      replace ns resource name (codec.write (codec.versioned object existing)) codec.read
    | none => create ns resource (codec.write object) codec.read

/-! ## Commands -/

/-- The first pod that the selector of the settings selects. -/
def adminPod (settings : Settings) (ns : String) : Remote String := do
  match ← list ns .pods (some settings.adminPodSelector) Pod.name? with
  | pod :: _ => return pod
  | [] =>
    throw <| .configuration <|
      "no pod matching " ++ settings.adminPodSelector ++ " in namespace " ++ ns

/-- The address at which a command is run. -/
def commandUri (settings : Settings) (ns pod command : String) : String :=
  withParameters (objectUri ns .pods pod ++ "/exec")
    [("stdout", "true"), ("stderr", "true"), ("container", settings.adminContainer),
      ("command", "sh"), ("command", "-c"), ("command", command)]

/-- Why a response with the given code opens no connection: its code, or else a missing header. -/
def upgradeFault (code : Nat) : String :=
  if code = 101 then "upgrade header was not set to websocket"
  else "failed to switch protocol: " ++ statusText code

/-- Runs a command in the administrative pod. -/
def runCommand (settings : Settings) (ns command : String) : Remote CommandOutput := do
  let pod ← adminPod settings ns
  match ← send ⟨.get, commandUri settings ns pod command, none⟩ with
  | .broken detail => throw (.api ("ServiceError: " ++ detail))
  | .response code _ =>
    throw (.api ("failed to upgrade to a WebSocket connection: " ++ upgradeFault code))
  | .upgraded frames => ofExcept (commandOutput frames)

/-! ## Calls -/

/-- The patch that writes a request's status. It names the version that the request was read in,
so it fails if somebody wrote the request since. -/
def statusPatch (request : NamespaceBackup.Request) : Json :=
  .object [
    ("metadata", .object
      [("resourceVersion", Json.orNull (request.metadata.resourceVersion.map .str))]),
    ("status", Json.orNull (request.status.map (·.toJson)))]

/-- Writes a request's status. -/
def updateStatus (settings : Settings) (request : NamespaceBackup.Request) :
    Remote NamespaceBackup.Request := do
  match request.metadata.ns with
  | none =>
    throw <| .invalidState <| "BackupRequest " ++ request.anyName ++ " has no namespace"
  | some ns =>
    patch settings ns .requests request.anyName true (statusPatch request) Request.ofJson?

/-- Merges a patch and drops what comes back. -/
def patchObject (settings : Settings) (ns : String) (resource : ApiResource) (name : String)
    (onStatus : Bool) (content : Json) : Remote Unit := do
  let _ ← patch settings ns resource name onStatus content Resource.ofJson?

/-- The requests of a call. -/
def perform (settings : Settings) : (call : Call) → Remote call.Answer
  | .listManaged ns kind => list ns kind.apiResource none Resource.ofJson?
  | .applyManaged ns kind object => createOrReplace .resource ns kind.apiResource object
  | .patchManagedStatus ns kind name status =>
    patchObject settings ns kind.apiResource name true status
  | .deleteManaged ns kind name => delete ns kind.apiResource name Resource.ofJson?
  | .listConfigMaps ns selector => list ns .configMaps (some selector) ConfigMap.ofJson?
  | .applyConfigMap ns configMap => createOrReplace .configMap ns .configMaps configMap
  | .deleteConfigMap ns name => delete ns .configMaps name ConfigMap.ofJson?
  | .listSecrets ns selector => list ns .secrets (some selector) Secret.ofJson?
  | .applySecret ns secret => createOrReplace .secret ns .secrets secret
  | .deleteSecret ns name => delete ns .secrets name Secret.ofJson?
  | .getBundle ns name => get? ns .bundles name Bundle.ofJson?
  | .findBundle ns selector => do
    return (← list ns .bundles (some selector) Bundle.ofJson?).head?
  | .createBundle ns bundle => create ns .bundles bundle.toJson Bundle.ofJson?
  | .updateStatus request => updateStatus settings request
  | .getMachine ns name => get? ns machineResource name Resource.ofJson?
  | .patchMachine ns name content => patchObject settings ns machineResource name false content
  | .listMarkers ns kind selector => list ns kind.apiResource (some selector) Resource.ofJson?
  | .createMarker ns kind marker => create ns kind.apiResource marker.toJson Resource.ofJson?
  | .runCommand ns command => runCommand settings ns command

/-- The requests behind a question of a pass. -/
def settle (settings : Settings) :
    (query : Query) → Dialogue Question Question.Answer query.Answer
  | .clock => .ask Question.clock fun (instant : Instant) => .finish instant
  | .call c => perform settings c

end Rest

end NamespaceBackup
