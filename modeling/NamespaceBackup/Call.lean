import NamespaceBackup.Bundle
import NamespaceBackup.Dialogue
import NamespaceBackup.Failure
import NamespaceBackup.Marker

/-!
# Calls to the cluster

Everything a backup reads, writes or runs in the cluster is one of the calls listed here, and
every call may fail.

## Main definitions

* `Call`: the calls
* `Call.Answer`: what a call answers if it succeeds
* `Activity`: a dialogue of calls and clock readings that may fail and has a state of its own
-/

namespace NamespaceBackup

/-- What a command printed and whether it succeeded. -/
structure CommandOutput where
  stdout : String := ""
  stderr : String := ""
  success : Bool := false
deriving DecidableEq, Repr, Inhabited

/-- The calls to the cluster. `ns` is the namespace that a call is about. -/
inductive Call where
  /-- All objects of a managed kind. -/
  | listManaged (ns : String) (kind : ManagedKind)
  /-- Creates an object, or replaces the one of its name. -/
  | applyManaged (ns : String) (kind : ManagedKind) (object : Resource)
  /-- Merges a patch into an object's status. -/
  | patchManagedStatus (ns : String) (kind : ManagedKind) (name : String) (patch : Json)
  | deleteManaged (ns : String) (kind : ManagedKind) (name : String)
  /-- The config maps that a label selector selects. -/
  | listConfigMaps (ns selector : String)
  | applyConfigMap (ns : String) (configMap : ConfigMap)
  | deleteConfigMap (ns name : String)
  /-- The secrets that a label selector selects. -/
  | listSecrets (ns selector : String)
  | applySecret (ns : String) (secret : Secret)
  | deleteSecret (ns name : String)
  | getBundle (ns name : String)
  /-- The first bundle that a label selector selects. -/
  | findBundle (ns selector : String)
  | createBundle (ns : String) (bundle : Bundle)
  /-- Writes a request's status if nobody wrote the request since it was read. -/
  | updateStatus (request : Request)
  | getMachine (ns name : String)
  /-- Merges a patch into a machine. -/
  | patchMachine (ns name : String) (patch : Json)
  /-- The markers that a label selector selects. -/
  | listMarkers (ns : String) (kind : MarkerKind) (selector : String)
  | createMarker (ns : String) (kind : MarkerKind) (marker : Resource)
  /-- Runs a shell command in the administrative pod. -/
  | runCommand (ns command : String)
deriving DecidableEq

/-- What a call answers if it succeeds. -/
def Call.Answer : Call → Type
  | listManaged .. | listMarkers .. => List Resource
  | listConfigMaps .. => List ConfigMap
  | listSecrets .. => List Secret
  | getBundle .. | findBundle .. => Option Bundle
  | updateStatus .. => Request
  | getMachine .. => Option Resource
  | runCommand .. => CommandOutput
  | applyManaged .. | patchManagedStatus .. | deleteManaged .. | applyConfigMap ..
  | deleteConfigMap .. | applySecret .. | deleteSecret .. | createBundle .. | patchMachine ..
  | createMarker .. => Unit

/-- What a backup may ask. -/
inductive Query where
  /-- What time it is. -/
  | clock
  /-- A call to the cluster. -/
  | call (call : Call)
deriving DecidableEq

/-- The answer to a question. -/
def Query.Answer : Query → Type
  | clock => Instant
  | call c => Except Failure c.Answer

/-- A dialogue with clock and cluster that may fail and has a state of its own, which survives a
failure. -/
abbrev Activity (σ : Type) : Type → Type :=
  ExceptT Failure (StateT σ (Dialogue Query Query.Answer))

namespace Activity

variable {σ τ α : Type}

/-- Reads the clock. -/
def now : Activity σ Instant := fun state =>
  .ask Query.clock fun (instant : Instant) => .finish (.ok instant, state)

/-- Makes a call; its failure is the activity's. -/
def call (c : Call) : Activity σ c.Answer := fun state =>
  .ask (Query.call c) fun (answer : Except Failure c.Answer) => .finish (answer, state)

/-- The outcome of an activity, whether it succeeds or not. -/
def outcome (x : Activity σ α) : Activity σ (Except Failure α) := fun state =>
  (x state).bind fun (result, state) => .finish (.ok result, state)

/-- Carries out an activity on a state of its own and gives its final state with its result; if
it fails, that state is lost. -/
def within (init : τ) (x : Activity τ α) : Activity σ (α × τ) := fun state =>
  (x init).bind fun (result, final) => .finish (result.map fun value => (value, final), state)

end Activity

end NamespaceBackup
