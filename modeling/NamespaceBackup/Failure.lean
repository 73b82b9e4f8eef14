/-!
# Failures

Why a step of a backup did not succeed. The kind of a failure decides whether a later pass tries
again or the request ends in an error state; the detail says what happened.

## Main definitions

* `Failure`: the kinds of failure
* `Failure.message`: the full wording
* `Failure.isTransient`: whether a later pass can succeed past it
-/

namespace NamespaceBackup

/-- A failure with its detail. -/
inductive Failure where
  /-- The cluster's API refused or did not answer. -/
  | api (detail : String)
  /-- Somebody else changed the object in the meantime, or it exists already. -/
  | conflict (detail : String)
  /-- The object does not exist. -/
  | notFound (detail : String)
  /-- The request or the installation is set up wrongly. -/
  | configuration (detail : String)
  /-- A pass came to no conclusion. -/
  | reconciliation (detail : String)
  /-- A value cannot be read or written. -/
  | serialization (detail : String)
  /-- An object is in a state that it must not be in. -/
  | invalidState (detail : String)
  /-- A command in the administrative pod failed in an unexpected way. -/
  | remoteCommand (detail : String)
deriving DecidableEq, Repr

namespace Failure

/-- What happened, without the kind of failure. -/
def detail : Failure → String
  | api d | conflict d | notFound d | configuration d | reconciliation d | serialization d
  | invalidState d | remoteCommand d => d

/-- What every failure of one kind starts with. -/
def heading : Failure → String
  | api _ => "Kubernetes API error"
  | conflict _ => "Conflict"
  | notFound _ => "Resource not found"
  | configuration _ => "Configuration error"
  | reconciliation _ => "Reconciliation error"
  | serialization _ => "Serialization error"
  | invalidState _ => "Invalid state"
  | remoteCommand _ => "Remote command error"

/-- The wording of a failure. -/
def message (failure : Failure) : String := failure.heading ++ ": " ++ failure.detail

/-- Whether this is a conflict. -/
def isConflict : Failure → Bool
  | conflict _ => true
  | _ => false

/-- Whether an object is missing. -/
def isNotFound : Failure → Bool
  | notFound _ => true
  | _ => false

/-- Whether a later pass can succeed past the failure: conflicts, vanished objects and failures
of the API. -/
def isTransient : Failure → Bool
  | api _ | conflict _ | notFound _ => true
  | _ => false

end Failure

end NamespaceBackup
