import NamespaceBackup.Controller.Watch
import NamespaceBackup.Saga.Reconcile

/-!
# The controller's schedule

The controller runs a pass for a request whenever something happens to it or to an object made for
it, and again when the last pass asks for it. At most one run of a request is due at any time: what
happens before it is due takes its place.

## Main definitions

* `Notice`: what the controller is told
* `Agenda`: the known requests, and when each is due
* `Schedule.nextRun`: when a request is run after a pass
* `Schedule.run`: runs all passes of a stretch of time
-/

namespace NamespaceBackup

/-- What the controller is told. -/
inductive Notice where
  /-- A request is there, as it is now. -/
  | observed (request : Request)
  /-- A request is gone. -/
  | deleted (id : RequestId)
  /-- Something happened to an object made for a request. -/
  | touched (id : RequestId)

/-- A known request. -/
structure Appointment where
  /-- The request as it was last seen. -/
  request : Request
  /-- The second in which it is run. -/
  due : Option Nat

/-- The known requests. -/
abbrev Agenda : Type := List Appointment

namespace Agenda

/-- Whether a request is known. -/
def knows (agenda : Agenda) (id : RequestId) : Bool := agenda.any (·.request.id = id)

/-- What a notice in a given second does to the agenda. -/
def note (now : Nat) (agenda : Agenda) : Notice → Agenda
  | .observed request =>
    if agenda.knows request.id then
      agenda.map fun a => if a.request.id = request.id then ⟨request, some now⟩ else a
    else agenda ++ [⟨request, some now⟩]
  | .deleted id => agenda.filter fun a => a.request.id ≠ id
  | .touched id => agenda.map fun a => if a.request.id = id then { a with due := some now } else a

/-- The first second in which a request is due. -/
def nextDue (agenda : Agenda) : Option Nat := (agenda.filterMap (·.due)).min?

end Agenda

namespace Schedule

/-- When a request is run after a pass in the given second, if nothing happens before. -/
def nextRun (now : Nat) : Except Failure Action → Option Nat
  | .ok .awaitChange => none
  | .ok (.requeue seconds) => some (now + seconds)
  | .error failure => some (now + Saga.retryDelay failure)

variable {m : Type → Type} [Monad m]

/-- Runs the passes that are due in a second. -/
def runDue (pass : Nat → Request → m (Except Failure Action)) (now : Nat) (agenda : Agenda) :
    m Agenda :=
  agenda.mapM fun a => do
    if a.due = some now then
      let outcome ← pass now a.request
      return { a with due := nextRun now outcome }
    else return a

/-- The next second in which something happens. -/
def nextSecond (agenda : Agenda) (notices : List (Nat × Notice)) : Option Nat :=
  (agenda.nextDue.toList ++ notices.map Prod.fst).min?

/-- Runs all passes in front of the second `limit`. `fuel` bounds the number of seconds in which
something happens. -/
def runFrom (pass : Nat → Request → m (Except Failure Action)) (limit : Nat) :
    (fuel : Nat) → Agenda → List (Nat × Notice) → m Unit
  | 0, _, _ => return
  | fuel + 1, agenda, notices =>
    match nextSecond agenda notices with
    | none => return
    | some now => do
      if limit ≤ now then return
      -- Everything that is told in this second is noted before anything is run.
      let (present, later) := notices.partition (·.1 = now)
      let agenda := present.foldl (fun agenda notice => agenda.note now notice.2) agenda
      runFrom pass limit fuel (← runDue pass now agenda) later

/-- Runs all passes in front of the second `limit`, starting with nothing known. -/
def run (pass : Nat → Request → m (Except Failure Action)) (limit : Nat)
    (notices : List (Nat × Notice)) : m Unit :=
  runFrom pass limit limit [] notices

end Schedule

end NamespaceBackup
