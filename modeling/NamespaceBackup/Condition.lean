import NamespaceBackup.Json.Record
import NamespaceBackup.Time.Timestamp

/-!
# Status conditions

A request keeps one condition for every state it has visited. The condition of the current state
is the only one marked `True`; older ones are marked `False` and stay, so the list is a history of
the states, in order of first visit.

## Main definitions

* `Condition`: one entry of the history
* `Conditions.set`: enters a condition, in place of the one of its type
* `Conditions.current?`: the entry marked `True`
* `Conditions.promote`: makes a type the current one
* `Conditions.withoutTimes`: the meaning of a history
-/

namespace NamespaceBackup

/-- What is known about one state of a request. -/
structure Condition where
  /-- The name of the state. -/
  typeName : String
  /-- `True` for the current state, else `False`. -/
  status : String
  reason : Option String := none
  message : Option String := none
  /-- When the condition was last confirmed. -/
  lastHeartbeatTime : Option String := none
  /-- When the condition last became another one. -/
  lastTransitionTime : Option String := none
deriving DecidableEq, Repr, Inhabited

namespace Condition

/-- The names of the fields, in order. -/
def fieldNames : List String :=
  ["type", "status", "reason", "message", "lastHeartbeatTime", "lastTransitionTime"]

/-- The status of the current state. -/
def holding : String := "True"

/-- The status of every other state. -/
def past : String := "False"

/-- A condition as of now. -/
def build (now : Instant) (typeName status reason message : String) : Condition :=
  { typeName, status, reason := some reason, message := some message,
    lastHeartbeatTime := some now.text, lastTransitionTime := some now.text }

/-- Whether two conditions of one type say the same. -/
def agrees (a b : Condition) : Bool :=
  a.status = b.status && a.reason = b.reason && a.message = b.message

/-- A condition after a newer one of its type: confirmed now, and in transition now if it says
something else. -/
def updated (old new : Condition) : Condition :=
  if old.agrees new then { old with lastHeartbeatTime := new.lastHeartbeatTime } else new

/-- The condition without its times. -/
def withoutTimes (c : Condition) : Condition :=
  { c with lastHeartbeatTime := none, lastTransitionTime := none }

/-- Reads a condition. -/
def ofJson? {σ : Type} [Json.Source σ] (json : σ) : Option Condition := do
  let record ← Record.ofObjectOrArray? fieldNames 2 json
  pure {
    typeName := ← record.required "type" Source.text?
    status := ← record.required "status" Source.text?
    reason := ← record.nullable "reason" Source.text?
    message := ← record.nullable "message" Source.text?
    lastHeartbeatTime := ← record.nullable "lastHeartbeatTime" Source.text?
    lastTransitionTime := ← record.nullable "lastTransitionTime" Source.text? }

/-- Writes a condition. -/
def toJson (c : Condition) : Json :=
  .object [("type", .str c.typeName), ("status", .str c.status),
    ("reason", Json.orNull (c.reason.map .str)),
    ("message", Json.orNull (c.message.map .str)),
    ("lastHeartbeatTime", Json.orNull (c.lastHeartbeatTime.map .str)),
    ("lastTransitionTime", Json.orNull (c.lastTransitionTime.map .str))]

end Condition

namespace Conditions

/-- Enters a condition: the first entry of its type is updated, without one it comes last. -/
def set (new : Condition) : List Condition → List Condition
  | [] => [new]
  | old :: rest =>
    if old.typeName = new.typeName then old.updated new :: rest else old :: set new rest

/-- The first entry that is marked `True`. -/
def current? (conditions : List Condition) : Option Condition :=
  conditions.find? (·.status = Condition.holding)

/-- Marks the current entry `False`; its reason and message stay. -/
def demote (now : Instant) (conditions : List Condition) : List Condition :=
  match current? conditions with
  | none => conditions
  | some current =>
    let past := Condition.build now current.typeName Condition.past "" ""
    set { past with reason := current.reason, message := current.message } conditions

/-- Makes a type the current one, with a new reason and message. One reading of the clock stands for
the two entries that change, the one that was current and the one that is, as if no time passed
between them. -/
def promote (now : Instant) (typeName reason message : String) (conditions : List Condition) :
    List Condition :=
  set (.build now typeName Condition.holding reason message) (demote now conditions)

/-- The history without its times. -/
def withoutTimes (conditions : List Condition) : List Condition :=
  conditions.map (·.withoutTimes)

/-- A history as requests keep it: one entry for each type, at most one of them current. -/
structure WellFormed (conditions : List Condition) : Prop where
  /-- No type occurs twice. -/
  nodup : (conditions.map (·.typeName)).Nodup
  /-- At most one entry is marked `True`. -/
  current_unique : conditions.countP (·.status = Condition.holding) ≤ 1

theorem set_eq_append {new : Condition} {conditions : List Condition}
    (h : ∀ c ∈ conditions, c.typeName ≠ new.typeName) : set new conditions = conditions ++ [new] := by
  induction conditions with
  | nil => rfl
  | cons old rest ih =>
    rw [set, if_neg (h old (by simp)), ih fun c hc => h c (by simp [hc]), List.cons_append]

theorem updated_typeName {old new : Condition} (h : old.typeName = new.typeName) :
    (old.updated new).typeName = old.typeName := by
  unfold Condition.updated
  split <;> simp [h]

end Conditions

end NamespaceBackup
