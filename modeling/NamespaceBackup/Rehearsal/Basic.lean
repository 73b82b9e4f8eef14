import NamespaceBackup.Cluster.Basic
import NamespaceBackup.Rehearsal.Disturbance

/-!
# Rehearsals

A rehearsal carries out a backup on a cluster in memory, with a clock that stands still, commands
whose outcomes are laid out beforehand, and calls that fail on purpose.

## Main definitions

* `Rehearsal`: the cluster with everything around it
* `Rehearsal.answer`: what a backup is answered
* `Rehearsal.carryOut`: carries out an activity
-/

namespace NamespaceBackup

/-- A call that was made. -/
structure Entry where
  call : Call
  /-- How it failed, if it did. -/
  failure : Option Failure
deriving DecidableEq

/-- A cluster with everything around it. -/
structure Rehearsal where
  cluster : Cluster := {}
  clock : Instant
  /-- The outcomes of the next commands. -/
  outcomes : List (Except Failure CommandOutput) := []
  disturbances : List Disturbance := []
  /-- The calls made, the last one first. -/
  journal : List Entry := []

namespace Rehearsal

/-- The failure of an answer. -/
def failureOf {α : Type} : Except Failure α → Option Failure
  | .ok _ => none
  | .error failure => some failure

/-- What a call that is not disturbed answers. A command has the next outcome laid out for it. -/
def perform (rehearsal : Rehearsal) : (call : Call) → Except Failure call.Answer × Rehearsal
  | .runCommand ns command =>
    match rehearsal.outcomes with
    | outcome :: rest => (outcome, { rehearsal with outcomes := rest })
    | [] => ((rehearsal.cluster.perform (.runCommand ns command)).1, rehearsal)
  | call =>
    let (answer, cluster) := rehearsal.cluster.perform call
    (answer, { rehearsal with cluster })

/-- Whether a call is entered into the journal although nothing disturbed it. -/
def isNoted (call : Call) : Bool := call.isWrite || call.operation = .runCommand

/-- What a call answers, with the entry it leaves in the journal. -/
def makeCall (rehearsal : Rehearsal) (call : Call) : Except Failure call.Answer × Rehearsal :=
  match Disturbance.strike call rehearsal.disturbances with
  | (some failure, disturbances) =>
    (.error failure, { rehearsal with
      disturbances, journal := ⟨call, some failure⟩ :: rehearsal.journal })
  | (none, disturbances) =>
    let (answer, rehearsal) := { rehearsal with disturbances }.perform call
    let journal :=
      if isNoted call then ⟨call, failureOf answer⟩ :: rehearsal.journal else rehearsal.journal
    (answer, { rehearsal with journal })

/-- What a backup is answered. -/
def answer : (query : Query) → Rehearsal → query.Answer × Rehearsal
  | .clock, rehearsal => (rehearsal.clock, rehearsal)
  | .call call, rehearsal => rehearsal.makeCall call

/-- Carries out an activity from a given state of it. -/
def carryOut {σ α : Type} (activity : Activity σ α) (state : σ) (rehearsal : Rehearsal) :
    (Except Failure α × σ) × Rehearsal :=
  Dialogue.run answer (activity state) rehearsal

end Rehearsal

end NamespaceBackup
