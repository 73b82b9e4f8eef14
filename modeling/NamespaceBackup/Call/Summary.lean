import NamespaceBackup.Call

/-!
# Calls in brief

What a record of calls shows of each call.

## Main definitions

* `Operation`, `Call.operation`: which call it is, without its data
* `Call.ns`, `Call.subject`, `Call.kindName?`: what the call is about
* `Call.content?`: what it writes
* `Call.isWrite`, `Call.isDelete`: whether it changes or deletes an object
-/

namespace NamespaceBackup

/-- The calls without their data. -/
inductive Operation where
  | listManaged
  | applyManaged
  | patchManagedStatus
  | deleteManaged
  | listConfigMaps
  | applyConfigMap
  | deleteConfigMap
  | listSecrets
  | applySecret
  | deleteSecret
  | getBundle
  | findBundle
  | createBundle
  | updateStatus
  | getMachine
  | patchMachine
  | listMarkers
  | createMarker
  | runCommand
deriving DecidableEq, Repr

/-- The word for the kind of a marker. -/
def MarkerKind.word : MarkerKind → String
  | snapshot => "snapshot"
  | restore => "restore"

namespace Call

/-- Which call it is. -/
def operation : Call → Operation
  | listManaged .. => .listManaged
  | applyManaged .. => .applyManaged
  | patchManagedStatus .. => .patchManagedStatus
  | deleteManaged .. => .deleteManaged
  | listConfigMaps .. => .listConfigMaps
  | applyConfigMap .. => .applyConfigMap
  | deleteConfigMap .. => .deleteConfigMap
  | listSecrets .. => .listSecrets
  | applySecret .. => .applySecret
  | deleteSecret .. => .deleteSecret
  | getBundle .. => .getBundle
  | findBundle .. => .findBundle
  | createBundle .. => .createBundle
  | updateStatus .. => .updateStatus
  | getMachine .. => .getMachine
  | patchMachine .. => .patchMachine
  | listMarkers .. => .listMarkers
  | createMarker .. => .createMarker
  | runCommand .. => .runCommand

/-- The namespace that a call is about. -/
def ns : Call → String
  | listManaged ns .. | applyManaged ns .. | patchManagedStatus ns .. | deleteManaged ns ..
  | listConfigMaps ns .. | applyConfigMap ns .. | deleteConfigMap ns .. | listSecrets ns ..
  | applySecret ns .. | deleteSecret ns .. | getBundle ns .. | findBundle ns ..
  | createBundle ns .. | getMachine ns .. | patchMachine ns .. | listMarkers ns ..
  | createMarker ns .. | runCommand ns .. => ns
  | updateStatus request => request.metadata.ns.getD ""

/-- The name of the object that a call is about, the selector of what it lists, or the command
that it runs. -/
def subject : Call → String
  | listManaged .. => ""
  | applyManaged _ _ object => object.anyName
  | patchManagedStatus _ _ name _ | deleteManaged _ _ name | deleteConfigMap _ name
  | deleteSecret _ name | getBundle _ name | getMachine _ name | patchMachine _ name _ => name
  | listConfigMaps _ selector | listSecrets _ selector | findBundle _ selector
  | listMarkers _ _ selector => selector
  | applyConfigMap _ configMap => configMap.anyName
  | applySecret _ secret => secret.anyName
  | createBundle _ bundle => bundle.anyName
  | updateStatus request => request.anyName
  | createMarker _ _ marker => marker.anyName
  | runCommand _ command => command

/-- The kind of managed object or marker that a call is about. -/
def kindName? : Call → Option String
  | listManaged _ kind | applyManaged _ kind _ | patchManagedStatus _ kind _ _
  | deleteManaged _ kind _ => some kind.name
  | listMarkers _ kind _ | createMarker _ kind _ => some kind.word
  | _ => none

/-- What a call writes. -/
def content? : Call → Option Json
  | applyManaged _ _ object | createMarker _ _ object => some object.toJson
  | patchManagedStatus _ _ _ patch | patchMachine _ _ patch => some patch
  | applyConfigMap _ configMap => some configMap.toJson
  | applySecret _ secret => some secret.toJson
  | createBundle _ bundle => some bundle.toJson
  | updateStatus request => some (Json.orNull (request.status.map (·.toJson)))
  | _ => none

/-- Whether a call deletes an object. -/
def isDelete : Call → Bool
  | deleteManaged .. | deleteConfigMap .. | deleteSecret .. => true
  | _ => false

/-- Whether a call changes objects. -/
def isWrite : Call → Bool
  | listManaged .. | listConfigMaps .. | listSecrets .. | getBundle .. | findBundle ..
  | getMachine .. | listMarkers .. | runCommand .. => false
  | _ => true

end Call

end NamespaceBackup
