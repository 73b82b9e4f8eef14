import NamespaceBackup.Saga.Restore
import NamespaceBackup.Saga.Save

/-!
# Passes

One pass brings a request a step further. A failure that a later pass can get past leaves the
request where it is; any other failure puts it into the error state of its mode.

## Main definitions

* `Action`: when a request is looked at again
* `Saga.reconcile`: one pass
* `Saga.retryDelay`: when a failed pass is repeated
-/

namespace NamespaceBackup

/-- When a request is looked at again, if nothing happens to it before. -/
inductive Action where
  /-- Not at all. -/
  | awaitChange
  /-- After some seconds. -/
  | requeue (seconds : Nat)
deriving DecidableEq, Repr

namespace Saga

/-- The work of one pass in a mode. -/
def pass (settings : Settings) : Mode → Pass Unit
  | .save => savePass settings
  | .restore | .cleanRestore => restorePass settings

/-- Puts a request into the error state of its mode and hands on the failure. A failure to write
that state is not reported. -/
def fail {α : Type} (mode : Mode) (failure : Failure) : Pass α := do
  let _ ← (transition mode.errorState failure.message).outcome
  throw failure

/-- One pass. -/
def reconcile (settings : Settings) : Pass Action := do
  let request ← get
  let mode := request.spec.mode
  if request.state.isTerminal then return .awaitChange
  -- What the work wrote before it failed stays written.
  match ← (pass settings mode).outcome with
  | .ok () =>
    if (← get).state.isTerminal then return .awaitChange
    else return .requeue settings.requeueSeconds
  | .error failure =>
    if failure.isTransient then return .requeue settings.requeueSeconds
    else fail mode failure

/-- The number of seconds after which a failed pass is repeated. What somebody has to put right
takes longer. -/
def retryDelay : Failure → Nat
  | .conflict _ => 5
  | .configuration _ | .invalidState _ => 300
  | _ => 30

end Saga

end NamespaceBackup
