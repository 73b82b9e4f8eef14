import NamespaceBackup.Call.Summary

/-!
# Disturbances

A rehearsal shows how a backup fares when calls fail. A disturbance makes calls of one kind fail:
it lets some of them pass, then fails some, then is spent.

## Main definitions

* `Disturbance`: which calls fail, and how
* `Disturbance.strike`: whether a call fails
-/

namespace NamespaceBackup

/-- Which calls fail, and how. -/
structure Disturbance where
  operation : Operation
  /-- The subject of the calls, if not any. -/
  subject : Option String := none
  /-- The kind that the calls are about, if not any. -/
  kindName : Option String := none
  failure : Failure
  /-- How many calls still pass. -/
  skip : Nat := 0
  /-- How many calls still fail after that. -/
  times : Nat := 1
deriving DecidableEq

namespace Disturbance

/-- Whether a call is one of those meant. -/
def affects (disturbance : Disturbance) (call : Call) : Bool :=
  disturbance.operation = call.operation &&
    disturbance.subject.all (· = call.subject) &&
    disturbance.kindName.all (some · = call.kindName?)

/-- The failure that disturbances make of a call, and the disturbances afterwards. The first one
that makes it fail ends the search; every one before it that lets it pass counts it. -/
def strike (call : Call) : List Disturbance → Option Failure × List Disturbance
  | [] => (none, [])
  | first :: rest =>
    let (failure, rest') := strike call rest
    if !first.affects call then (failure, first :: rest')
    else if 0 < first.skip then (failure, { first with skip := first.skip - 1 } :: rest')
    else if 0 < first.times then
      (some first.failure, { first with times := first.times - 1 } :: rest)
    else (failure, first :: rest')

end Disturbance

end NamespaceBackup
