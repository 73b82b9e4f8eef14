import NamespaceBackup.Condition
import NamespaceBackup.Object.Metadata

/-!
# Backup requests

A request asks for one save or one restore of a whole namespace. Its status is all that a backup
in progress remembers.

## Main definitions

* `Mode`: what is asked for
* `State`: how far it has come
* `Mode.track`: the states that a request of one mode passes through
* `Request`: a request with its status
* `Request.marker?`: the text that marks everything made for a request
* `Request.operationInProgress`: whether some request is under way
-/

namespace NamespaceBackup

/-- What a request asks for. -/
inductive Mode where
  /-- Save the namespace into a new bundle. -/
  | save
  /-- Load a bundle over whatever is in the namespace. -/
  | restore
  /-- Delete everything that is managed, then load a bundle. -/
  | cleanRestore
deriving DecidableEq, Repr, Inhabited

namespace Mode

/-- All modes. -/
def all : List Mode := [save, restore, cleanRestore]

/-- The name of a mode. -/
def name : Mode → String
  | save => "save"
  | restore => "restore"
  | cleanRestore => "cleanRestore"

/-- The mode of a name. -/
def ofName? (name : String) : Option Mode := all.find? (·.name = name)

/-- Whether a bundle is loaded. -/
def isRestore : Mode → Bool
  | save => false
  | restore | cleanRestore => true

theorem ofName?_name (mode : Mode) : ofName? mode.name = some mode := by cases mode <;> decide

end Mode

/-- How far a request has come. -/
inductive State where
  /-- Nothing has happened yet. -/
  | empty
  /-- All other controllers must finish first. -/
  | quiescing
  /-- Machine images are taken and the bundle is made. -/
  | saving
  | saved
  | saveError
  /-- What is managed in the namespace is being deleted. -/
  | cleaning
  /-- The bundle is being loaded. -/
  | loading
  /-- All other controllers must bring the loaded objects up. -/
  | reconciling
  | restored
  | restoreError
deriving DecidableEq, Repr, Inhabited

namespace State

/-- All states. -/
def all : List State :=
  [empty, quiescing, saving, saved, saveError, cleaning, loading, reconciling, restored,
    restoreError]

/-- The name of a state. -/
def name : State → String
  | empty => "Empty"
  | quiescing => "Quiescing"
  | saving => "Saving"
  | saved => "Saved"
  | saveError => "SaveError"
  | cleaning => "Cleaning"
  | loading => "Loading"
  | reconciling => "Reconciling"
  | restored => "Restored"
  | restoreError => "RestoreError"

/-- The state of a name. -/
def ofName? (name : String) : Option State := all.find? (·.name = name)

/-- Whether nothing more is done for a request in this state. -/
def isTerminal : State → Bool
  | saved | saveError | restored | restoreError => true
  | _ => false

theorem ofName?_name (state : State) : ofName? state.name = some state := by
  cases state <;> decide

end State

namespace Mode

/-- The state that a request falls into for good when it fails. -/
def errorState (mode : Mode) : State := if mode.isRestore then .restoreError else .saveError

/-- The states that a request passes through if nothing fails, in order. -/
def track : Mode → List State
  | save => [.empty, .quiescing, .saving, .saved]
  | restore => [.empty, .loading, .reconciling, .restored]
  | cleanRestore => [.empty, .cleaning, .loading, .reconciling, .restored]

end Mode

namespace Request

/-- What is asked for. -/
structure Spec where
  /-- Whether to save or to restore. -/
  mode : Mode := .save
  /-- Whether the disks of all machines are included. -/
  includeImages : Bool := false
  /-- The bundle to restore from. -/
  restoreSource : Option String := none
deriving DecidableEq, Repr, Inhabited

/-- What a request remembers from pass to pass. -/
structure Status where
  /-- How far it has come. -/
  state : State := .empty
  /-- The snapshots of the machines that are finished, by machine. -/
  snapshotNames : Dict String := .empty
  /-- When the request reached its goal. -/
  completionTimestamp : Option String := none
  /-- The history of its states. -/
  conditions : List Condition := []
deriving DecidableEq, Inhabited

/-- What is wrong with a request, if anything: a restore must name its bundle. -/
def Spec.fault? (spec : Spec) : Option String :=
  if spec.mode.isRestore && spec.restoreSource.getD "" = "" then
    some ("mode " ++ spec.mode.name ++ " requires restoreSource")
  else none

end Request

/-- A request as the cluster stores it. -/
structure Request where
  metadata : Metadata := {}
  spec : Request.Spec := {}
  /-- Absent until the first pass. -/
  status : Option Request.Status := none
deriving DecidableEq, Inhabited

namespace Request

/-- The name the request goes by. -/
def anyName (request : Request) : String := request.metadata.anyName

/-- The status; that of a new request if there is none. -/
def currentStatus (request : Request) : Status := request.status.getD {}

/-- How far the request has come. -/
def state (request : Request) : State := request.currentStatus.state

/-- The text that marks everything made for the request: its name and the second of its creation,
so that a request made anew under an old name shares nothing with the old one. -/
def marker? (request : Request) : Option String := do
  let created ← request.metadata.creationTimestamp
  let name ← request.metadata.name
  pure (name ++ "-" ++ toString created.seconds)

/-- The state of the first request that is under way. -/
def operationInProgress (requests : List Request) : Option State :=
  (requests.map state).find? fun state => state ≠ .empty && !state.isTerminal

end Request

end NamespaceBackup
